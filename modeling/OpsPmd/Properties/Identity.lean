import OpsPmd.Sim

/-!
# The identity of the inserted module

A poll reads the serial ID page of a module where the port was empty before, or could not be read.
What stands in the port then is not looked at again: a module that takes the place of another
between two polls is not noticed.

* `Remembers` — the columns of a port that holds a module are those of some page
* `follows_iff_rereads` — the columns follow the inserted module exactly in the runs that give every
  new page to a port that is read
-/

namespace OpsPmd

open PmInfo

variable {t : ModuleType} {p : SimPort}

/-- A serial ID page can be told from the column `a0`. -/
theorem ModuleType.identity_a0_injective {a0 a0' : Page}
    (h : t.identity a0 .a0 = t.identity a0' .a0) : a0 = a0' := by
  have hlen : a0.toList.length = a0'.toList.length := by simp
  exact Page.toList_injective (hexToAscii_injective hlen (Option.some.inj h))

namespace PmPort

/-- The identification columns are those of the page `a0`. -/
def Identifies (t : ModuleType) (a0 : Page) (port : PmPort) : Prop :=
  ∀ c, c ≠ .a0Uppers → c ≠ .a2 → port.info c = t.identity a0 c

theorem Inv.identifies_observe {port : PmPort} (h : port.Inv t) (a0 : Page) (a2 : Option Page) :
    (port.observe (.identified a0 a2)).Identifies t a0 :=
  fun _ h0 h2 => info_observe_identified h.device h.numeric a0 a2 h0 h2

/-- A port found empty has the connector `absent`. -/
theorem Inv.connector_settleAbsent {port : PmPort} (h : port.Inv t) :
    port.settleAbsent.info .connector = some CONNECTOR_ABSENT := h.hasShape_settleAbsent.2.1

end PmPort

/-! ## The invariant -/

/-- A port that holds a module it need not read has the columns of some page. -/
structure Remembers (t : ModuleType) (p : SimPort) : Prop where
  inv : p.port.Inv t
  page : ¬p.port.NeedsRead → ∃ a0, p.port.Identifies t a0

theorem simStep_poll (h : p.port.Inv t) :
    simStep p .poll =
      { p with port := p.port.observe (simObservation t p.port p.world.moduleData) } := by
  show portStep simulation p (.poll id) = _
  rw [portStep_poll h, observation_simulation]
  rfl

theorem port_insert (content : Option (List UInt8)) : (p.insert content).2.2.port = p.port := by
  unfold SimPort.insert
  cases content with
  | none => rfl
  | some content =>
    dsimp only
    cases freadPage content <;> rfl

theorem port_remove : p.remove.2.2.port = p.port := by
  unfold SimPort.remove
  split <;> rfl

/-- **Every step of the simulation keeps the invariant.** -/
theorem Remembers.simStep (h : Remembers t p) (e : SimEvent) : Remembers t (simStep p e) := by
  obtain ⟨hinv, hpage⟩ := h
  cases e with
  | insert content =>
    have hport : (OpsPmd.simStep p (.insert content)).port = p.port := port_insert content
    exact ⟨hport ▸ hinv, hport ▸ hpage⟩
  | remove =>
    have hport : (OpsPmd.simStep p .remove).port = p.port := port_remove
    exact ⟨hport ▸ hinv, hport ▸ hpage⟩
  | poll =>
    rw [simStep_poll hinv]
    have hposs : Possible t p.port (simObservation t p.port p.world.moduleData) := by
      have hobs : Possible t p.port (observation simulation t p.port p.world).1 :=
        observation_possible _
      rwa [observation_simulation] at hobs
    refine ⟨hinv.observe hposs, ?_⟩
    generalize simObservation t p.port p.world.moduleData = o
    intro hheld
    match o with
    | .absent =>
      change ¬p.port.settleAbsent.NeedsRead at hheld
      show ∃ a0, p.port.settleAbsent.Identifies t a0
      -- only a port that was idle before can be one that need not be read
      unfold PmPort.settleAbsent at hheld ⊢
      split
      · next habs =>
        rw [if_pos habs] at hheld
        exact absurd (fun hp => by rw [PmPort.present_absent] at hp; cases hp.1) hheld
      · next hidle =>
        rw [if_neg hidle] at hheld
        exact hpage hheld
    | .held => exact hpage hheld
    | .unreadable =>
      refine absurd (fun hp => ?_) hheld
      have hretry : p.port.unreadable.retry = false := hp.2
      rw [PmPort.unreadable_frame] at hretry
      cases hretry
    | .identified a0 a2 => exact ⟨a0, hinv.identifies_observe a0 a2⟩

/-! ## Following the module -/

/--
After a poll an empty port has the connector `absent`, and one with a good page has the columns that
`pm_parse` stores for that page in a fresh port.
-/
def Follows (fresh : PmPort) (p : SimPort) : SimEvent → Prop
  | .poll =>
    let after := simStep p .poll
    (after.world.moduleData = none → after.port.info .connector = some CONNECTOR_ABSENT) ∧
      ∀ data, after.world.moduleData = some data → sfppSumVerify data = 0 →
        ∀ c, c ≠ .a0Uppers → c ≠ .a2 → after.port.info c = (pmParse data fresh).2.info c
  | _ => True

/-- At a poll, a good page is new to a port that has to be read only. -/
def ReReads (p : SimPort) : SimEvent → Prop
  | .poll =>
    ∀ data, p.world.moduleData = some data → sfppSumVerify data = 0 →
      p.port.NeedsRead ∨ p.port.info .a0 = some (hexToAscii data.toList)
  | _ => True

/-- The step lemma: a poll of a port with the invariant follows exactly where it rereads. -/
theorem Remembers.follows_iff {fresh : PmPort} (hf : fresh.Inv t) (h : Remembers t p)
    (e : SimEvent) : Follows fresh p e ↔ ReReads p e := by
  cases e with
  | insert content => exact Iff.rfl
  | remove => exact Iff.rfl
  | poll =>
    obtain ⟨hinv, hpage⟩ := h
    have hparse : ∀ data : Page, ∀ c, c ≠ .a0Uppers → c ≠ .a2 →
        (pmParse data fresh).2.info c = t.identity data c :=
      fun data c h0 h2 => info_pmParse hf.device hf.numeric.intWritten h0 h2
    simp only [Follows, ReReads, simStep_poll hinv]
    cases hdata : p.world.moduleData with
    | none =>
      refine iff_of_true ⟨fun _ => ?_, fun _ hd => by cases hd⟩ fun _ hd => by cases hd
      exact hinv.connector_settleAbsent
    | some data =>
      have hsome : ∀ {Q : Page → Prop}, (∀ d, some data = some d → Q d) ↔ Q data :=
        ⟨fun hall => hall data rfl, fun hQ d hd => Option.some.inj hd ▸ hQ⟩
      rw [hsome, hsome, and_iff_right fun hnone => by cases hnone]
      refine forall_congr' fun hsum => ?_
      by_cases hneeds : p.port.NeedsRead
      · -- the page is read and parsed
        refine iff_of_true (fun c h0 h2 => ?_) (Or.inl hneeds)
        rw [hparse data c h0 h2]
        simp only [simObservation, if_neg hneeds, if_pos hsum]
        exact hinv.identifies_observe data _ c h0 h2
      · -- the port is left as it was, with the columns of some page
        obtain ⟨a0, ha0⟩ := hpage hneeds
        have hobs : simObservation t p.port (some data) = .held := by
          simp only [simObservation, if_pos (not_not.mp hneeds)]
        rw [hobs, or_iff_right hneeds]
        constructor
        · intro hall
          exact (hall .a0 (by decide) (by decide)).trans (hparse data .a0 (by decide) (by decide))
        · intro hcol c h0 h2
          have hsame : a0 = data :=
            ModuleType.identity_a0_injective (t := t)
              ((ha0 .a0 (by decide) (by decide)).symm.trans hcol)
          rw [hparse data c h0 h2, ← hsame]
          exact ha0 c h0 h2

/--
**In a run of commands and polls the columns follow the inserted module after every poll if and only
if every poll that meets a good page meets it on a port that has to be read, or that has it
already.**
-/
theorem follows_iff_rereads {yamlPort : YamlPort} (h : yamlPort.IsA t) (intf : Interface)
    (subName : String) (es : List SimEvent) :
    Run.Along simStep (Follows (newPort intf subName yamlPort))
        (newSlot intf subName yamlPort {}) es ↔
      Run.Along simStep ReReads (newSlot intf subName yamlPort {}) es := by
  have hnew := PmPort.inv_newPort intf subName h
  refine Run.along_iff_of_invariant (I := Remembers t) (fun _ e hI _ => hI.simStep e)
    (fun _ e hI => hI.follows_iff hnew e) ⟨hnew, fun hheld => ?_⟩
  exact absurd (fun hp => by cases hp.1) hheld

/-- A module is inserted, polled, removed, and polled again. -/
theorem follows_iff_rereads_removal :
    let slot : SimPort := newSlot ⟨0, "1", []⟩ "base" ModuleType.sfpPlus.device {}
    let es := [.insert (some srPage.toList), .poll, .remove, .poll]
    Run.Along simStep (Follows slot.port) slot es ↔ Run.Along simStep ReReads slot es :=
  follows_iff_rereads (ModuleType.isA_device .sfpPlus) ⟨0, "1", []⟩ "base" _

/-- A page of a 10GBASE-LR module, otherwise like `srPage`. -/
def lrPage : Page := fun i => if i = 3 then 0x20 else if i = 63 then 0x20 else srPage i

/-- A module is inserted over another one: the columns are still those of the first. -/
theorem swap_unnoticed :
    let slot : SimPort := newSlot ⟨0, "1", []⟩ "base" ModuleType.sfpPlus.device {}
    let es := [.insert (some srPage.toList), .poll, .insert (some lrPage.toList), .poll]
    ¬Run.Along simStep (Follows slot.port) slot es := by
  intro slot es hall
  have hpoll : Follows slot.port (Run.exec simStep slot (es.take 3)) .poll :=
    Run.along_iff_cut.mp hall (es.take 3) .poll [] rfl
  have hdata : (simStep (Run.exec simStep slot (es.take 3)) .poll).world.moduleData.map
      Page.toList = some lrPage.toList := by decide +kernel
  obtain ⟨data, hdata, hlist⟩ := Option.map_eq_some_iff.mp hdata
  obtain rfl := Page.toList_injective hlist
  have hlast := hpoll.2 lrPage hdata (by decide +kernel) .connector (by decide) (by decide)
  revert hlast
  decide +kernel

end OpsPmd
