import OpsPmd.PortInvariant

/-!
# Platforms with ghost state

A platform may carry more in its world than the code reads: a log of its calls, or the module behind
the bus. It lies over the platform without that part if every function does the same to the rest.

* `Platform.Over` — `P` does to its world what `Q` does to the image of it
* `pmReadModuleState_over`, `portStep_over` — a poll, and a port with its world
* `Platform.Preserves` — what every function of a platform keeps, a poll keeps
* `attempt_logged` — one round of a poll over a platform that keeps a log
* `exec_over` — without its ghost state, a run of the daemon over `P` is a run over `Q`
-/

namespace OpsPmd

variable {σ τ : Type} {P : Platform σ} {Q : Platform τ} {f : σ → τ}

/-- What `P` does to a world, `Q` does to its image under `f`, with the same results. -/
structure Platform.Over (P : Platform σ) (Q : Platform τ) (f : σ → τ) : Prop where
  getPresence : ∀ port s, Q.getPresence port (f s) = (P.getPresence port s).map id f
  readA0 : ∀ port offset s, Q.readA0 port offset (f s) = (P.readA0 port offset s).map id f
  readA2 : ∀ port s, Q.readA2 port (f s) = (P.readA2 port s).map id f
  resetPort : ∀ port s, Q.resetPort port (f s) = f (P.resetPort port s)
  clearReset : ∀ port s, Q.clearReset port (f s) = f (P.clearReset port s)
  configurePort : ∀ port s, Q.configurePort port (f s) = f (P.configurePort port s)

/-- The same for the calls on behalf of one port. -/
structure Platform.OverAt (P : Platform σ) (Q : Platform τ) (f : σ → τ) (port : PortId) :
    Prop where
  getPresence : ∀ s, Q.getPresence port (f s) = (P.getPresence port s).map id f
  readA0 : ∀ offset s, Q.readA0 port offset (f s) = (P.readA0 port offset s).map id f
  readA2 : ∀ s, Q.readA2 port (f s) = (P.readA2 port s).map id f
  resetPort : ∀ s, Q.resetPort port (f s) = f (P.resetPort port s)

theorem Platform.Over.at (h : P.Over Q f) (port : PortId) : P.OverAt Q f port where
  getPresence := h.getPresence port
  readA0 := h.readA0 port
  readA2 := h.readA2 port
  resetPort := h.resetPort port

/-! ## Polls -/

theorem retryReadA2_overAt {port : PortId} (h : P.OverAt Q f port) : ∀ (n : Nat) (s : σ),
    retryReadA2 Q port n (f s) = (retryReadA2 P port n s).map id f
  | n, s => by
    rw [retryReadA2.eq_def, retryReadA2.eq_def P, h.readA2]
    obtain ⟨a2, s'⟩ := P.readA2 port s
    cases a2 with
    | some a2 => rfl
    | none =>
      cases n with
      | zero => rfl
      | succ n => exact retryReadA2_overAt h n s'

/-- The result of a poll, with the image of the world. -/
def mapPoll (f : σ → τ) (r : Int × PmPort × σ) : Int × PmPort × τ := (r.1, r.2.1, f r.2.2)

/-- No statement of a poll changes the identity of the port. -/
theorem toPortId_pmParse (a0 : Page) (port : PmPort) :
    (pmParse a0 port).2.toPortId = port.toPortId := by
  unfold pmParse
  split
  · rfl
  · cases port.moduleDevice.connector with
    | none => rfl
    | some connector =>
      dsimp only
      cases moduleType connector with
      | none => simp only [PmPort.cells_pmDeleteAllData]; rfl
      | some type =>
        dsimp only
        rw [PmPort.fillRest_frame, PmPort.setModule_frame]

theorem toPortId_setA2ReadRequest (port : PmPort) (a0 : Page) :
    (port.setA2ReadRequest a0).toPortId = port.toPortId := by
  unfold PmPort.setA2ReadRequest
  split_ifs <;> rfl

theorem readDiagnostics_overAt {port : PmPort} (h : P.OverAt Q f port.toPortId) (n : Nat) (s : σ) :
    readDiagnostics Q port n (f s) = mapPoll f (readDiagnostics P port n s) := by
  unfold readDiagnostics
  split
  · rfl
  · rw [retryReadA2_overAt h]
    rfl

theorem retryRead_overAt {port : PmPort} (h : P.OverAt Q f port.toPortId) (offset : Nat) :
    ∀ (n : Nat) (s : σ),
    retryRead Q port offset n (f s) = mapPoll f (retryRead P port offset n s)
  | n, s => by
    rw [retryRead.eq_def, retryRead.eq_def P, h.getPresence]
    obtain ⟨present, s'⟩ := P.getPresence port.toPortId s
    dsimp only [Prod.map, id]
    by_cases hpresent : present = false
    · rw [if_pos hpresent, if_pos hpresent]
      split <;> rfl
    rw [if_neg hpresent, if_neg hpresent]
    by_cases hneeds : (port.present = false || port.retry) = true
    · rw [if_pos hneeds, if_pos hneeds, h.readA0]
      obtain ⟨a0, s''⟩ := P.readA0 port.toPortId offset s'
      cases a0 with
      | none =>
        cases n with
        | zero => rfl
        | succ n =>
          dsimp only [Prod.map, id]
          rw [h.resetPort]
          exact retryRead_overAt h offset n _
      | some a0 =>
        dsimp only [Prod.map, id]
        by_cases hsum : sfppSumVerify a0 ≠ 0
        · rw [if_pos hsum, if_pos hsum]
          cases n with
          | zero => rfl
          | succ n =>
            dsimp only
            rw [h.resetPort]
            exact retryRead_overAt h offset n _
        · rw [if_neg hsum, if_neg hsum]
          -- the parsed port reads its diagnostics where the port does
          have hparsed := toPortId_pmParse a0 port
          split
          · apply readDiagnostics_overAt
            rw [toPortId_setA2ReadRequest]
            exact hparsed ▸ h
          · apply readDiagnostics_overAt
            exact hparsed ▸ h
    · rw [if_neg hneeds, if_neg hneeds]
      exact readDiagnostics_overAt h n s'

/-- A poll does the same to the port, and to the world without its ghost state. -/
theorem pmReadModuleState_overAt {port : PmPort} (h : P.OverAt Q f port.toPortId) (s : σ) :
    pmReadModuleState Q port (f s) = mapPoll f (pmReadModuleState P port s) := by
  unfold pmReadModuleState
  split_ifs
  · exact retryRead_overAt h _ 2 s
  · exact retryRead_overAt h _ 2 s
  · rfl

/-- **Polls do the same to the port, and to the world without its ghost state.** -/
theorem pmReadModuleState_over (h : P.Over Q f) (port : PmPort) (s : σ) :
    pmReadModuleState Q port (f s) = mapPoll f (pmReadModuleState P port s) :=
  pmReadModuleState_overAt (h.at port.toPortId) s

/-! ## What every function keeps

A property of worlds that every function keeps is ghost state: the platform in the worlds that have it
lies over the platform itself.
-/

/-- Every function of the platform keeps `I`, on behalf of whatever port. -/
structure Platform.Preserves (P : Platform σ) (I : σ → Prop) : Prop where
  getPresence : ∀ port s, I s → I (P.getPresence port s).2
  readA0 : ∀ port offset s, I s → I (P.readA0 port offset s).2
  readA2 : ∀ port s, I s → I (P.readA2 port s).2
  resetPort : ∀ port s, I s → I (P.resetPort port s)
  clearReset : ∀ port s, I s → I (P.clearReset port s)
  configurePort : ∀ port s, I s → I (P.configurePort port s)

/-- The platform in the worlds that have `I`. -/
def Platform.restrict (P : Platform σ) {I : σ → Prop} (h : P.Preserves I) :
    Platform {s // I s} where
  getPresence port s := ((P.getPresence port s).1, ⟨_, h.getPresence port s s.2⟩)
  readA0 port offset s := ((P.readA0 port offset s).1, ⟨_, h.readA0 port offset s s.2⟩)
  readA2 port s := ((P.readA2 port s).1, ⟨_, h.readA2 port s s.2⟩)
  resetPort port s := ⟨_, h.resetPort port s s.2⟩
  clearReset port s := ⟨_, h.clearReset port s s.2⟩
  configurePort port s := ⟨_, h.configurePort port s s.2⟩

theorem Platform.over_restrict {I : σ → Prop} (h : P.Preserves I) :
    (P.restrict h).Over P Subtype.val where
  getPresence _ _ := rfl
  readA0 _ _ _ := rfl
  readA2 _ _ := rfl
  resetPort _ _ := rfl
  clearReset _ _ := rfl
  configurePort _ _ := rfl

/-- **What every function keeps, a poll keeps.** The port may be of any kind. -/
theorem Platform.Preserves.poll {I : σ → Prop} (h : P.Preserves I) (port : PmPort) {s : σ}
    (hs : I s) : I (pmReadModuleState P port s).2.2 := by
  have hover := pmReadModuleState_over (Platform.over_restrict h) port ⟨s, hs⟩
  have hworld : (pmReadModuleState P port s).2.2 =
      (pmReadModuleState (P.restrict h) port ⟨s, hs⟩).2.2.val := by rw [hover]; rfl
  rw [hworld]
  exact Subtype.property _

/-! ## Logs of calls -/

section Log

variable {κ : Type} {L : Platform (σ × List κ)} {found : Bool → List κ}
  {read : Option Page → List κ}

/-- What one round adds to a log that gets `found` at a presence check and `read` at an A0 read. -/
def roundLog (P : Platform σ) (found : Bool → List κ) (read : Option Page → List κ) (port : PmPort)
    (offset : Nat) (s : σ) : List κ :=
  if (P.getPresence port.toPortId s).1 = false then found false
  else if port.present = true ∧ port.retry = false then found true
  else found true ++ read (P.readA0 port.toPortId offset (P.getPresence port.toPortId s).2).1

/-- A round over a platform with a log finds what it finds without. -/
theorem attempt_logged {port : PmPort}
    (hp : ∀ s l, L.getPresence port.toPortId (s, l) =
      ((P.getPresence port.toPortId s).1,
        ((P.getPresence port.toPortId s).2, l ++ found (P.getPresence port.toPortId s).1)))
    (h0 : ∀ offset s l, L.readA0 port.toPortId offset (s, l) =
      ((P.readA0 port.toPortId offset s).1,
        ((P.readA0 port.toPortId offset s).2, l ++ read (P.readA0 port.toPortId offset s).1)))
    (offset : Nat) (s : σ) (l : List κ) :
    attempt L port offset (s, l) =
      ((attempt P port offset s).1,
        ((attempt P port offset s).2, l ++ roundLog P found read port offset s)) := by
  unfold attempt roundLog
  rw [hp]
  obtain ⟨present, s₁, hpresent⟩ : ∃ b s₁, P.getPresence port.toPortId s = (b, s₁) := ⟨_, _, rfl⟩
  rw [hpresent]
  cases present with
  | false => rfl
  | true =>
    by_cases hheld : port.present = true ∧ port.retry = false
    · simp only [if_pos hheld]
      rfl
    · simp only [if_neg hheld, h0]
      obtain ⟨r, s₂, hr⟩ : ∃ r s₂, P.readA0 port.toPortId offset s₁ = (r, s₂) := ⟨_, _, rfl⟩
      rw [hr]
      cases r with
      | none => simp
      | some a0 => by_cases hsum : sfppSumVerify a0 = 0 <;> simp [hsum]

end Log

/-! ## One port -/

/-- An event of `Q` for a platform over it: the ghost state does not change by itself. -/
def PortEvent.lift (up : (τ → τ) → σ → σ) : PortEvent τ → PortEvent σ
  | .poll change => .poll (up change)
  | .publish => .publish
  | .modify intf => .modify intf

/-- The port with the image of its world. -/
def Slot.mapWorld (f : σ → τ) (slot : Slot σ) : Slot τ where
  port := slot.port
  world := f slot.world

variable {up : (τ → τ) → σ → σ}

theorem portStep_over (h : P.Over Q f) (hup : ∀ change s, f (up change s) = change (f s))
    (slot : Slot σ) (e : PortEvent τ) :
    portStep Q (slot.mapWorld f) e = (portStep P slot (e.lift up)).mapWorld f := by
  cases e with
  | poll change =>
    have hpoll := pmReadModuleState_over h slot.port (up change slot.world)
    rw [hup] at hpoll
    dsimp only [portStep, Slot.mapWorld, PortEvent.lift]
    rw [hpoll]
    rfl
  | publish => rfl
  | modify intf =>
    dsimp only [portStep, PortEvent.lift, Slot.mapWorld, ovsdbIfIntfModify]
    split
    · rw [h.configurePort]
    · rfl

/-! ## The daemon -/

/-- The daemon with the image of its world. -/
def Pmd.mapWorld (f : σ → τ) (d : Pmd σ) : Pmd τ where
  idlSeqno := d.idlSeqno
  curHwSet := d.curHwSet
  ovsIntfs := d.ovsIntfs
  ovsSubs := d.ovsSubs
  yaml := d.yaml
  world := f d.world

@[simp] theorem Pmd.idlSeqno_mapWorld (d : Pmd σ) : (d.mapWorld f).idlSeqno = d.idlSeqno := rfl

@[simp] theorem Pmd.ovsIntfs_mapWorld (d : Pmd σ) : (d.mapWorld f).ovsIntfs = d.ovsIntfs := rfl

section Daemon

variable (h : P.Over Q f)

include h

theorem ovsdbIfIntfCreate_over (intf : Interface) (subName : String) (d : Pmd σ) :
    ovsdbIfIntfCreate Q intf subName (d.mapWorld f) =
      (ovsdbIfIntfCreate P intf subName d).mapWorld f := by
  unfold ovsdbIfIntfCreate
  dsimp only [Pmd.mapWorld]
  cases pmGetYamlPort d.yaml subName intf.name with
  | none => rfl
  | some y =>
    dsimp only
    split
    · rfl
    · rw [h.configurePort, h.clearReset]

theorem createInterfaces_over (subName : String) (intfs : List Interface) (d : Pmd σ) :
    createInterfaces Q subName intfs (d.mapWorld f) =
      (createInterfaces P subName intfs d).mapWorld f := by
  refine List.foldl_hom (Pmd.mapWorld f) fun d intf => ?_
  dsimp only [Pmd.ovsIntfs_mapWorld]
  cases d.ovsIntfs.find intf.name with
  | none => exact ovsdbIfIntfCreate_over h intf subName d
  | some _ => rfl

theorem ovsdbIfSubsysProcess_over (idl : Idl) (files : Subsystem → YamlFiles) (d : Pmd σ)
    (sub : Subsystem) :
    ovsdbIfSubsysProcess Q idl files (d.mapWorld f) sub =
      (ovsdbIfSubsysProcess P idl files d sub).mapWorld f := by
  unfold ovsdbIfSubsysProcess
  dsimp only [Pmd.mapWorld]
  cases d.ovsSubs.find sub.name with
  | some _ => exact createInterfaces_over h sub.name (idl.interfacesOf sub) d
  | none =>
    dsimp only
    split
    · rfl
    · exact createInterfaces_over h sub.name (idl.interfacesOf sub)
        { d with
          ovsSubs := d.ovsSubs.add sub.name sub.uuid
          yaml := Function.update d.yaml sub.name (files sub).ports }

theorem modifyInterface_over (d : Pmd σ) (intf : Interface) :
    modifyInterface Q (d.mapWorld f) intf = (modifyInterface P d intf).mapWorld f := by
  unfold modifyInterface
  dsimp only [Pmd.mapWorld]
  cases d.ovsIntfs.find intf.name with
  | none => rfl
  | some port =>
    dsimp only [ovsdbIfIntfModify]
    split
    · rw [h.configurePort]
    · rfl

theorem ovsdbIfIntfConfigure_over (d : Pmd σ) (intf : Interface) :
    ovsdbIfIntfConfigure Q intf (d.mapWorld f) = (ovsdbIfIntfConfigure P intf d).mapWorld f := by
  unfold ovsdbIfIntfConfigure
  dsimp only [Pmd.mapWorld]
  cases d.ovsIntfs.find intf.name with
  | none => rfl
  | some port =>
    dsimp only
    rw [h.configurePort]

theorem pmdReconfigure_over (idl : Idl) (seqno : Nat) (files : Subsystem → YamlFiles)
    (d : Pmd σ) :
    pmdReconfigure Q idl seqno files (d.mapWorld f) =
      (pmdReconfigure P idl seqno files d).mapWorld f := by
  have hsubs : ∀ d : Pmd σ, idl.subsystems.foldl (ovsdbIfSubsysProcess Q idl files) (d.mapWorld f) =
      (idl.subsystems.foldl (ovsdbIfSubsysProcess P idl files) d).mapWorld f := fun d =>
    List.foldl_hom (Pmd.mapWorld f) fun d sub => ovsdbIfSubsysProcess_over h idl files d sub
  unfold pmdReconfigure
  rw [Pmd.idlSeqno_mapWorld]
  by_cases hseqno : seqno = d.idlSeqno
  · rw [if_pos hseqno, if_pos hseqno]
  · rw [if_neg hseqno, if_neg hseqno]
    -- the deletions look at the ports and rows only, so they commute with the image
    show idl.interfaces.foldl (modifyInterface Q) (idl.subsystems.foldl
      (ovsdbIfSubsysProcess Q idl files) ((deleteSubsystems idl (deleteInterfaces idl
        { d with idlSeqno := seqno })).mapWorld f)) = _
    rw [hsubs]
    exact List.foldl_hom (Pmd.mapWorld f) fun d intf => modifyInterface_over h d intf

theorem pmOvsdbIfInit_over (idl : Idl) (seqno : Nat) (files : Subsystem → YamlFiles) (s : σ) :
    pmOvsdbIfInit Q idl seqno files (f s) = (pmOvsdbIfInit P idl seqno files s).mapWorld f := by
  have hsubs : idl.subsystems.foldl (ovsdbIfSubsysProcess Q idl files)
      (({ idlSeqno := seqno, world := s } : Pmd σ).mapWorld f) =
      (idl.subsystems.foldl (ovsdbIfSubsysProcess P idl files)
        { idlSeqno := seqno, world := s }).mapWorld f :=
    List.foldl_hom (Pmd.mapWorld f) fun d sub => ovsdbIfSubsysProcess_over h idl files d sub
  show idl.interfaces.foldl (fun d intf => ovsdbIfIntfConfigure Q intf d)
    (idl.subsystems.foldl (ovsdbIfSubsysProcess Q idl files)
      (({ idlSeqno := seqno, world := s } : Pmd σ).mapWorld f)) = _
  rw [hsubs]
  exact List.foldl_hom (Pmd.mapWorld f) fun d intf => ovsdbIfIntfConfigure_over h d intf

theorem pmReadState_over (d : Pmd σ) :
    pmReadState Q (d.mapWorld f) = (pmReadState P d).mapWorld f := by
  have hports : ∀ (ports : Shash String PmPort) (s : σ),
      ports.mapAccum (fun port s => (pmReadModuleState Q port s).2) (f s) =
        (ports.mapAccum (fun port s => (pmReadModuleState P port s).2) s).map id f :=
    fun ports s => Shash.mapAccum_hom fun port s =>
      congrArg Prod.snd (pmReadModuleState_over h port s)
  unfold pmReadState
  dsimp only [Pmd.mapWorld]
  rw [hports]
  rfl

end Daemon

/-! ## The event machine -/

/-- The same for an event of the daemon. -/
def Event.lift (up : (τ → τ) → σ → σ) : Event τ → Event σ
  | .idlRun idl seqno => .idlRun idl seqno
  | .reconfigure files => .reconfigure files
  | .readState change => .readState (up change)
  | .update committed => .update committed

/-- The system with the image of the daemon's world. -/
def System.mapWorld (f : σ → τ) (s : System σ) : System τ where
  idl := s.idl
  seqno := s.seqno
  pmd := s.pmd.mapWorld f
  db := s.db

theorem step_over (h : P.Over Q f) (hup : ∀ change s, f (up change s) = change (f s))
    (s : System σ) (e : Event τ) :
    step Q (s.mapWorld f) e = (step P s (e.lift up)).mapWorld f := by
  cases e with
  | idlRun idl seqno => rfl
  | reconfigure files =>
    show ({ s.mapWorld f with
      pmd := pmdReconfigure Q s.idl s.seqno files (s.pmd.mapWorld f) } : System τ) = _
    rw [pmdReconfigure_over h]
    rfl
  | readState change =>
    -- the world changes first, and then all ports are polled
    have hchange : ({ s.pmd.mapWorld f with world := change (f s.pmd.world) } : Pmd τ) =
        ({ s.pmd with world := up change s.pmd.world } : Pmd σ).mapWorld f := by
      rw [← hup change]
      rfl
    show ({ s.mapWorld f with
      pmd := pmReadState Q { s.pmd.mapWorld f with world := change (f s.pmd.world) } } :
        System τ) = _
    rw [hchange, pmReadState_over h]
    rfl
  | update committed => rfl

/-- **Without its ghost state, a run of the daemon over `P` is a run over `Q`.** -/
theorem exec_over (h : P.Over Q f) (hup : ∀ change s, f (up change s) = change (f s)) :
    ∀ (es : List (Event τ)) (s : System σ),
      Run.exec (step Q) (s.mapWorld f) es =
        (Run.exec (step P) s (es.map (Event.lift up))).mapWorld f
  | [], _ => rfl
  | e :: es, s => by
    rw [Run.exec_cons, step_over h hup, exec_over h hup es, List.map_cons, Run.exec_cons]

end OpsPmd
