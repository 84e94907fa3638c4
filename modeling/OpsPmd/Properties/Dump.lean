import OpsPmd.Dump
import OpsPmd.Properties.History

/-!
# What can be seen in a dump

The dump prints names and column texts as they are. Where an update has committed since the last
poll it shows the rows of the database. A vendor may have put newlines into a field of its module,
but the field is too short for a line of the dump, so that the dump can still be read.

* `dump_shows_rows` — after an update the dump is the text of the rows
* `dump_read_back` — a dump of a daemon can be read back if no interface has a newline in its name
* `dump_ambiguous` — a name with a newline can pass for two interfaces
-/

namespace OpsPmd

variable {σ : Type} {P : Platform σ} {port : PmPort} {idl : Idl} {nameOf : Uuid → String}

/-! ## Reading lines back -/

/-- What stands before the value in the line of a column. -/
def columnHead (c : InfoColumn) : List Char :=
  "    ".toList ++ c.name.toList.rightpad 22 ' ' ++ " = ".toList

theorem columnHead_spec : ∀ c ∈ dumpedColumns,
    (columnHead c).length = 29 ∧ (columnHead c).head? = some ' ' ∧ '\n' ∉ columnHead c ∧
      (((columnHead c).drop 4).take 22).rdropWhile (· = ' ') = c.name.toList := by
  decide +kernel

/-- The entries are columns that are dumped. -/
def Smap.OfColumns (entries : Smap) : Prop := ∀ e ∈ entries, ∃ c ∈ dumpedColumns, e.1 = c.name

theorem PmPort.ofColumns_dumped (port : PmPort) : port.dumped.OfColumns := by
  intro e he
  obtain ⟨c, hc, hvalue⟩ := List.mem_filterMap.mp he
  obtain ⟨value, -, rfl⟩ := Option.map_eq_some_iff.mp hvalue
  exact ⟨c, hc, rfl⟩

theorem readEntry_entryLine {c : InfoColumn} (hc : c ∈ dumpedColumns) (value : String) :
    readEntry (entryLine (c.name, value)) = (c.name, value) := by
  obtain ⟨hlen, -, -, hname⟩ := columnHead_spec c hc
  show readEntry (columnHead c ++ value.toList) = _
  unfold readEntry
  rw [List.drop_append_of_le_length (by omega), List.take_append_of_le_length
    (by rw [List.length_drop]; omega), hname, ← hlen, List.drop_left]
  simp

theorem readHeader_headerLine (name : String) : readHeader (headerLine name) = name := by
  have hlen : "Pluggable info for Interface ".toList.length = 29 := by decide
  unfold readHeader headerLine
  rw [List.append_assoc, ← hlen, List.drop_left, List.dropLast_concat, String.ofList_toList]

/-! ## Reading blocks back -/

theorem readBlocks_entries {entries : Smap} (h : entries.OfColumns) (rest : List (List Char)) :
    readBlocks (entries.map entryLine ++ rest) =
      (entries ++ (readBlocks rest).1, (readBlocks rest).2) := by
  induction entries with
  | nil => rfl
  | cons e entries ih =>
    obtain ⟨name, value⟩ := e
    obtain ⟨c, hc, hname⟩ := h (name, value) List.mem_cons_self
    obtain rfl : name = c.name := hname
    obtain ⟨hlen, hhead, -, -⟩ := columnHead_spec c hc
    have hspace : (entryLine (c.name, value)).head? = some ' ' := by
      show (columnHead c ++ value.toList).head? = some ' '
      rw [List.head?_append, hhead]
      rfl
    rw [List.map_cons, List.cons_append, readBlocks,
      ih fun e he => h e (List.mem_cons_of_mem _ he)]
    simp only [hspace, if_true, readEntry_entryLine hc, List.cons_append]

theorem readBlocks_block (name : String) {entries : Smap} (h : entries.OfColumns)
    (rest : List (List Char)) :
    readBlocks (blockLines (name, entries) ++ rest) =
      ([], (name, entries ++ (readBlocks rest).1) :: (readBlocks rest).2) := by
  have hhead : (headerLine name).head? ≠ some ' ' := by
    unfold headerLine
    simp
  rw [blockLines, List.cons_append, readBlocks, readBlocks_entries h]
  simp only [if_neg hhead, readHeader_headerLine]

/-- **Blocks are read back from their lines.** -/
theorem readBlocks_flatMap : ∀ {blocks : List Block}, (∀ b ∈ blocks, b.2.OfColumns) →
    readBlocks (blocks.flatMap blockLines) = ([], blocks)
  | [], _ => rfl
  | (name, entries) :: blocks, h => by
    have hrest := readBlocks_flatMap fun b hb => h b (List.mem_cons_of_mem _ hb)
    rw [List.flatMap_cons, readBlocks_block name (h _ List.mem_cons_self), hrest, List.append_nil]

/-! ## Newlines -/

/-- The text has no newline, or is too short for a line. -/
def Brief (value : String) : Prop := '\n' ∉ value.toList ∨ value.toList.length < 29

instance (value : String) : Decidable (Brief value) := inferInstanceAs (Decidable (_ ∨ _))

/-- The name has no newline, and the values are brief. -/
def Block.Readable (b : Block) : Prop := '\n' ∉ b.1.toList ∧ ∀ e ∈ b.2, Brief e.2

theorem folded_headerLine {name : String} (h : '\n' ∉ name.toList) :
    Lines.Folded startsLine '\n' (headerLine name) := by
  have hlen : "Pluggable info for Interface ".toList.length = 29 := by decide
  refine Lines.folded_of_notMem ?_ ?_
  · unfold headerLine
    simp [h]
  · unfold headerLine startsLine
    rw [decide_eq_true_eq, List.length_append, List.length_append, hlen]
    omega

/-- What goes on after a newline in a brief value is not taken for another line. -/
theorem folded_entryLine {c : InfoColumn} (hc : c ∈ dumpedColumns) {value : String}
    (h : Brief value) : Lines.Folded startsLine '\n' (entryLine (c.name, value)) := by
  obtain ⟨hlen, -, hhead, -⟩ := columnHead_spec c hc
  obtain ⟨first, more, hsplit, hline⟩ := Lines.splitOn_append hhead value.toList
  refine ⟨columnHead c ++ first, more, hline, ?_, fun part hm => ?_⟩
  · rw [startsLine, decide_eq_true_eq, List.length_append, hlen]
    omega
  · rcases h with hnone | hshort
    · rw [List.splitOn_eq_singleton hnone, List.cons.injEq] at hsplit
      rw [← hsplit.2] at hm
      exact (List.not_mem_nil hm).elim
    · have hpart : part ∈ value.toList.splitOn '\n' := hsplit ▸ List.mem_cons_of_mem _ hm
      have hle := Lines.length_le_of_mem_splitOn hpart
      rw [startsLine, decide_eq_false_iff_not]
      omega

theorem folded_blockLines {b : Block} (h : b.Readable) (hkeys : b.2.OfColumns) :
    ∀ line ∈ blockLines b, Lines.Folded startsLine '\n' line := by
  obtain ⟨name, entries⟩ := b
  intro line hline
  rw [blockLines, List.mem_cons] at hline
  rcases hline with rfl | hline
  · exact folded_headerLine h.1
  · obtain ⟨⟨key, value⟩, he, rfl⟩ := List.mem_map.mp hline
    obtain ⟨c, hc, hkey⟩ := hkeys _ he
    obtain rfl : key = c.name := hkey
    exact folded_entryLine hc (h.2 _ he)

def titleLine : List Char := "================ Interfaces ================".toList

theorem folded_titleLine : Lines.Folded startsLine '\n' titleLine :=
  Lines.folded_of_notMem (by decide) (by decide)

/-- The text of a dump of these blocks. -/
def dumpText (blocks : List Block) : String :=
  String.ofList (Lines.write '\n' (titleLine :: blocks.flatMap blockLines))

theorem toList_dumpText (blocks : List Block) :
    (dumpText blocks).toList = Lines.write '\n' (titleLine :: blocks.flatMap blockLines) :=
  String.toList_ofList

/-- **A dump of readable blocks can be read back.** -/
theorem readDump_dumpText {blocks : List Block} (h : ∀ b ∈ blocks, b.2.OfColumns)
    (hreadable : ∀ b ∈ blocks, b.Readable) : readDump (dumpText blocks) = blocks := by
  have hfolded : ∀ line ∈ titleLine :: blocks.flatMap blockLines,
      Lines.Folded startsLine '\n' line := by
    intro line hline
    rcases List.mem_cons.mp hline with rfl | hline
    · exact folded_titleLine
    · obtain ⟨b, hb, hline⟩ := List.mem_flatMap.mp hline
      exact folded_blockLines (hreadable b hb) (h b hb) line hline
  unfold readDump
  rw [toList_dumpText, Lines.gather_read_write hfolded, List.drop_one, List.tail_cons,
    readBlocks_flatMap h]

/-! ## The replies -/

/-- The text of one interface. -/
def blockText (b : Block) : String := String.ofList (Lines.write '\n' (blockLines b))

theorem toList_blockText (b : Block) :
    (blockText b).toList = Lines.write '\n' (blockLines b) := String.toList_ofList

theorem pmInterfaceDump_eq (port : PmPort) :
    pmInterfaceDump "" port = blockText (port.instanceName, port.dumped) := by
  apply String.toList_injective
  rw [toList_pmInterfaceDump, toList_blockText, String.toList_empty, List.nil_append]

theorem toList_foldl_pmInterfaceDump : ∀ (intfs : Shash String PmPort) (ds : String),
    (intfs.foldl (fun ds node => pmInterfaceDump ds node.2) ds).toList =
      ds.toList ++ Lines.write '\n'
        ((intfs.map fun node => (node.2.instanceName, node.2.dumped)).flatMap blockLines)
  | [], ds => by simp
  | (_, port) :: intfs, ds => by
    rw [List.foldl_cons, toList_foldl_pmInterfaceDump intfs, toList_pmInterfaceDump, List.map_cons,
      List.flatMap_cons, Lines.write_append, List.append_assoc]

theorem pmDebugDump_all (ovsIntfs : Shash String PmPort) (command : String) :
    pmDebugDump ovsIntfs "" [command] =
      dumpText (ovsIntfs.map fun node => (node.2.instanceName, node.2.dumped)) := by
  have htitle : ("" ++ "================ Interfaces ================\n").toList =
      titleLine ++ ['\n'] := by decide
  apply String.toList_injective
  unfold pmDebugDump pmInterfacesDump
  rw [toList_foldl_pmInterfaceDump, htitle, toList_dumpText, Lines.write_cons, List.append_assoc]
  rfl

theorem pmDebugDump_interface (ovsIntfs : Shash String PmPort) (command name : String) :
    pmDebugDump ovsIntfs "" [command, "interface", name] =
      match ovsIntfs.find name with
      | some port => blockText (port.instanceName, port.dumped)
      | none => "" := by
  unfold pmDebugDump
  dsimp only
  rw [if_pos (by decide), pmInterfacesDump]
  cases ovsIntfs.find name with
  | none => rfl
  | some port => exact pmInterfaceDump_eq port

/-- The reply for one interface. -/
theorem pmdUnixctlDump_of_find {ovsIntfs : Shash String PmPort} {command name : String}
    {port : PmPort} (h : ovsIntfs.find name = some port) :
    pmdUnixctlDump ovsIntfs [command, "interface", name] =
      .ok (blockText (port.instanceName, port.dumped)) := by
  rw [pmdUnixctlDump, pmDebugDump_interface, h]

/--
**A name with a newline can pass for two interfaces.** Two ports that were never polled are dumped
like one that has the header of the second in its name, and no reader can tell them apart.
-/
theorem dump_ambiguous {p q r : PmPort} (hp : p.dumped = []) (hq : q.dumped = [])
    (hr : r.dumped = [])
    (hname : r.instanceName =
      p.instanceName ++ ":\nPluggable info for Interface " ++ q.instanceName)
    (n₁ n₂ n command : String) :
    pmDebugDump [(n₁, p), (n₂, q)] "" [command] = pmDebugDump [(n, r)] "" [command] := by
  have hjoin : ":\nPluggable info for Interface ".toList =
      ':' :: '\n' :: "Pluggable info for Interface ".toList := by decide
  have htwo : blockLines (p.instanceName, p.dumped) ++ blockLines (q.instanceName, q.dumped) =
      [headerLine p.instanceName, headerLine q.instanceName] := by
    rw [hp, hq]
    rfl
  have hone : blockLines (r.instanceName, r.dumped) = [headerLine r.instanceName] := by
    rw [hr]
    rfl
  have hheader : headerLine r.instanceName =
      headerLine p.instanceName ++ '\n' :: headerLine q.instanceName := by
    unfold headerLine
    rw [hname, String.toList_append, String.toList_append, hjoin]
    simp only [List.append_assoc, List.cons_append, List.nil_append]
  apply String.toList_injective
  rw [pmDebugDump_all, pmDebugDump_all, toList_dumpText, toList_dumpText]
  simp only [List.map_cons, List.map_nil, List.flatMap_cons, List.flatMap_nil, List.append_nil,
    htwo, hone, hheader, Lines.write_cons, Lines.write_nil, List.append_assoc, List.cons_append]

/-! ## The dump and the database -/

/-- The columns that are dumped are published. -/
theorem published_of_dumped : ∀ c ∈ dumpedColumns, (Column.info c).Published := by
  simp [dumpedColumns, Column.Published]

/-- A map that is exact for a port has the dumped columns of the port. -/
theorem PmPort.ExactMap.dumped {row : Smap} (h : port.ExactMap row) : row.dumped = port.dumped := by
  refine List.filterMap_congr fun c hc => ?_
  have hfind : row.find c.name = port.info c := h.find (.info c) (published_of_dumped c hc)
  rw [hfind]

/--
What a dump shows of a port whose row is up to date. A port that was never polled shows nothing.
-/
def PmPort.shownRow (port : PmPort) (db : Database) : Smap :=
  if (port.info .connector).isSome then (db.pmInfo port.uuid).dumped else []

theorem Tracked.dumped {db : Database} (h : Tracked db port)
    (hdown : port.moduleInfoChanged = false) : port.dumped = port.shownRow db := by
  obtain ⟨⟨t, hinv⟩, hmarked⟩ := h
  unfold PmPort.shownRow
  rcases hinv.shape with hblank | ⟨k, hk⟩
  · rw [hblank.2, if_neg (by simp)]
    unfold PmPort.dumped
    rw [List.filterMap_eq_nil_iff]
    intro c _
    rw [hblank.2]
    rfl
  · have hpolled := hk.connector_isSome
    rw [if_pos hpolled]
    rcases hmarked with hnone | hup | hhas
    · rw [hnone] at hpolled
      cases hpolled
    · rw [hdown] at hup
      cases hup
    · rw [hhas]
      exact hinv.exactMap.dumped.symm

/--
**As long as every update commits, the dump shows the database.** In every state the dump of an
interface with no change pending is the text of the identification entries of its row, and so is the
dump of all interfaces if there is no change pending at all.
-/
theorem dump_shows_rows (P : Platform σ) (nameOf : Uuid → String) (hidl : idl.Named nameOf)
    {files : Subsystem → YamlFiles} (hfiles : YamlFiles.All (fun y => ∃ t, y.IsA t) files)
    (seqno : Nat) (world : σ) (db : Database) {es : List (Event σ)}
    (hes : ∀ e ∈ es, e.Proper nameOf) :
    let s := Run.exec (step P) (initial P idl seqno files world db) es
    (∀ n p, (n, p) ∈ s.pmd.ovsIntfs → p.moduleInfoChanged = false →
      pmdUnixctlDump s.pmd.ovsIntfs ["ops-pmd/dump", "interface", n] =
        .ok (blockText (n, p.shownRow s.db))) ∧
    (∀ n, n ∉ s.pmd.ovsIntfs.keys →
      pmdUnixctlDump s.pmd.ovsIntfs ["ops-pmd/dump", "interface", n] = .ok "") ∧
    ((∀ n p, (n, p) ∈ s.pmd.ovsIntfs → p.moduleInfoChanged = false) →
      pmdUnixctlDump s.pmd.ovsIntfs ["ops-pmd/dump"] =
        .ok (dumpText (s.pmd.ovsIntfs.map fun node => (node.1, node.2.shownRow s.db)))) := by
  intro s
  have htracked : s.Sound nameOf Tracked :=
    Run.exec_invariant (fun _ _ hs he => hs.step_tracked he)
      (System.Sound.initial hidl hfiles seqno world db) (Run.along_of_forall hes)
  have hblock : ∀ n p, (n, p) ∈ s.pmd.ovsIntfs → p.moduleInfoChanged = false →
      (p.instanceName, p.dumped) = (n, p.shownRow s.db) := by
    intro n p hm hdown
    rw [htracked.ports.key n p hm, (htracked.ports.port n p hm).dumped hdown]
  refine ⟨fun n p hm hdown => ?_, fun n hn => ?_, fun hdown => ?_⟩
  · rw [pmdUnixctlDump_of_find (htracked.ports.unique.find_of_mem hm), hblock n p hm hdown]
  · rw [pmdUnixctlDump, pmDebugDump_interface, Shash.find_eq_none_iff.mpr hn]
  · rw [pmdUnixctlDump, pmDebugDump_all]
    congr 2
    exact List.map_congr_left fun ⟨n, p⟩ hm => hblock n p hm (hdown n p hm)

/-- A module is put into the one port, and the first update after the poll commits. -/
theorem dump_shows_rows_onePort :
    let es : List (Event SimData) :=
      [.readState fun d => { d with moduleData := some srPage }, .update true]
    let s := Run.exec (step simulation)
      (initial simulation onePortIdl 0 onePortFiles {} emptyDatabase) es
    ∃ p, ("1", p) ∈ s.pmd.ovsIntfs ∧ p.moduleInfoChanged = false ∧
      pmdUnixctlDump s.pmd.ovsIntfs ["ops-pmd/dump", "interface", "1"] =
        .ok (blockText ("1", p.shownRow s.db)) := by
  intro es s
  have hes : ∀ e ∈ es, e.Proper fun _ => "1" := by simp [es, Event.Proper]
  obtain ⟨hdump, -, -⟩ := dump_shows_rows simulation (fun _ => "1") named_onePortIdl
    known_onePortFiles 0 {} emptyDatabase hes
  have hs : Run.exec (step simulation) (initial simulation onePortIdl 0 onePortFiles {}
    emptyDatabase) es = s := rfl
  rw [hs] at hdump
  have hfind : (s.pmd.ovsIntfs.find "1").any (fun p => !p.moduleInfoChanged) = true := by
    decide +kernel
  obtain ⟨p, hp, hup⟩ := (Option.any_eq_true _ _).mp hfind
  have hm := Shash.mem_of_find hp
  have hdown : p.moduleInfoChanged = false := by simpa using hup
  exact ⟨p, hm, hdown, hdump "1" p hm hdown⟩

/-! ## How long the texts are -/

theorem brief_formatInt (n : Nat) : Brief (CText.formatInt n) := by
  have htext : (CText.formatInt n).toList = Nat.toDigits 10 n := Nat.toList_repr
  refine Or.inl ?_
  rw [htext]
  intro hmem
  have hdigit := Nat.isDigit_of_mem_toDigits (by decide) (by decide) hmem
  exact absurd hdigit (by decide)

theorem brief_pmOuiFormat (oui : List UInt8) : Brief (pmOuiFormat oui) := by
  refine Or.inr ?_
  unfold pmOuiFormat
  rw [String.toList_ofList]
  simp

theorem length_stripSpaces : ∀ (idx : Nat) (buf : List UInt8),
    (stripSpaces idx buf).length = buf.length
  | 0, _ => rfl
  | idx + 1, buf => by
    rw [stripSpaces]
    split
    · rw [length_stripSpaces idx, List.length_set]
    · rfl

/-- A field of a module is too short for a line. -/
theorem brief_vendorString {field : List UInt8} (h : field.length ≤ 16) :
    Brief (vendorString field) := by
  refine Or.inr ?_
  unfold vendorString cString
  rw [String.toList_ofList, List.length_map]
  have hlen := (List.takeWhile_sublist (l := stripSpaces (field.length - 1) (field ++ [0]))
    fun b => decide (b ≠ 0)).length_le
  rw [length_stripSpaces, List.length_append, List.length_singleton] at hlen
  omega

theorem length_bytes (p : Page) (start len : Nat) : (p.bytes start len).length = len := by
  rw [Page.bytes, List.length_map, List.length_range]

theorem length_vendorFields_le (t : ModuleType) (a0 : Page) :
    (t.vendor a0).vendorName.length ≤ 16 ∧ (t.vendor a0).vendorPartNumber.length ≤ 16 ∧
      (t.vendor a0).vendorRevision.length ≤ 16 ∧ (t.vendor a0).vendorSerialNumber.length ≤ 16 := by
  cases t <;> exact ⟨(length_bytes ..).le, (length_bytes ..).le,
    (length_bytes ..).le.trans (by decide), (length_bytes ..).le⟩

/-- The texts that a branch of `pm_parse` stores are brief. -/
def ModuleInfo.Brief (m : ModuleInfo) : Prop :=
  OpsPmd.Brief m.connector ∧ OpsPmd.Brief m.connectorStatus ∧ ∀ x ∈ m.cable, OpsPmd.Brief x.1

theorem brief_supported {connector : String} (h : Brief connector) (optical : Bool)
    (speed : UInt32) : (ModuleInfo.supported optical connector speed).Brief :=
  ⟨h, show Brief PmInfo.CONNECTOR_STATUS_SUPPORTED by decide, fun _ hx => by cases hx⟩

theorem brief_unrecognized : ModuleInfo.unrecognized.Brief :=
  ⟨by decide, by decide, fun _ hx => by cases hx⟩

theorem brief_sfpDac (p : Page) : (sfpDac p).Brief := by
  refine ⟨show Brief PmInfo.CONNECTOR_SFP_DAC by decide,
    show Brief PmInfo.CONNECTOR_STATUS_SUPPORTED by decide, fun x hx => ?_⟩
  obtain rfl := Option.mem_some_iff.mp hx
  dsimp only
  split_ifs <;> decide

theorem brief_classify (t : ModuleType) (a0 : Page) : (t.classify a0).Brief := by
  cases t with
  | sfpPlus =>
    show (sfpPlusModule a0).Brief
    unfold sfpPlusModule
    split_ifs
    · exact brief_sfpDac a0
    all_goals first
      | with_reducible exact brief_unrecognized
      | exact brief_supported (by decide +kernel) _ _
  | qsfpPlus =>
    show (qsfpPlusModule a0).Brief
    unfold qsfpPlusModule
    split_ifs <;> first
      | with_reducible exact brief_unrecognized
      | exact brief_supported (by decide +kernel) _ _
  | qsfp28 =>
    show (qsfp28Module a0).Brief
    unfold qsfp28Module extComplianceModule
    split_ifs <;> first
      | with_reducible exact brief_unrecognized
      | exact brief_supported (by decide +kernel) _ _

/-- What `pm_parse` stores in a column that is dumped is brief. -/
theorem brief_identity {t : ModuleType} {a0 : Page} {c : InfoColumn} {value : String}
    (hc : c ∈ dumpedColumns) (h : t.identity a0 c = some value) : Brief value := by
  obtain ⟨hconnector, hstatus, hcable⟩ := brief_classify t a0
  obtain ⟨hname, hpart, hrevision, hserial⟩ := length_vendorFields_le t a0
  cases c with
  | a0 | a0Uppers | a2 => exact absurd hc (by decide)
  | powerMode => cases h
  | vendorName =>
    obtain rfl := Option.some.inj h
    exact brief_vendorString hname
  | vendorPartNumber =>
    obtain rfl := Option.some.inj h
    exact brief_vendorString hpart
  | vendorRevision =>
    obtain rfl := Option.some.inj h
    exact brief_vendorString hrevision
  | vendorSerialNumber =>
    obtain rfl := Option.some.inj h
    exact brief_vendorString hserial
  | vendorOui =>
    obtain rfl := Option.some.inj h
    exact brief_pmOuiFormat _
  | connector =>
    obtain rfl := Option.some.inj h
    exact hconnector
  | connectorStatus =>
    obtain rfl := Option.some.inj h
    exact hstatus
  | supportedSpeeds | maxSpeed =>
    obtain rfl := Option.some.inj h
    exact brief_formatInt _
  | cableTechnology =>
    obtain ⟨x, hx, rfl⟩ := Option.map_eq_some_iff.mp h
    exact hcable x hx
  | cableLength =>
    obtain ⟨x, -, rfl⟩ := Option.map_eq_some_iff.mp h
    exact brief_formatInt _

/-- The columns that are dumped are brief. -/
def PmPort.BriefColumns (port : PmPort) : Prop :=
  ∀ c ∈ dumpedColumns, ∀ value, port.info c = some value → Brief value

theorem brief_noModule {connector value : String} {c : InfoColumn} (hconnector : Brief connector)
    (h : noModule connector c = some value) : Brief value := by
  unfold noModule at h
  split at h
  · obtain rfl := Option.some.inj h
    exact hconnector
  · obtain rfl := Option.some.inj h
    decide
  · cases h

theorem PmPort.BriefColumns.observe {t : ModuleType} (h : port.BriefColumns) (hinv : port.Inv t)
    (o : Observation) : (port.observe o).BriefColumns := by
  intro c hc value hvalue
  match o with
  | .absent =>
    obtain ⟨-, hconnector, hstatus, hrest⟩ := hinv.hasShape_settleAbsent
    replace hvalue : port.settleAbsent.info c = some value := hvalue
    by_cases h1 : c = .connector
    · rw [h1, hconnector] at hvalue
      obtain rfl := Option.some.inj hvalue
      decide
    · by_cases h2 : c = .connectorStatus
      · rw [h2, hstatus] at hvalue
        obtain rfl := Option.some.inj hvalue
        decide
      · rw [hrest c h1 h2] at hvalue
        cases hvalue
  | .held => exact h c hc value hvalue
  | .unreadable => exact brief_noModule (by decide) ((PmPort.info_unreadable c).symm.trans hvalue)
  | .identified a0 a2 =>
    have h0 : c ≠ .a0Uppers := fun he => absurd (he ▸ hc) (by decide)
    have h2 : c ≠ .a2 := fun he => absurd (he ▸ hc) (by decide)
    rw [PmPort.info_observe_identified hinv.device hinv.numeric a0 a2 h0 h2] at hvalue
    exact brief_identity hc hvalue

theorem PmPort.Lived.briefColumns (h : port.Lived P) : port.BriefColumns := by
  obtain ⟨t, intf, subName, y, s, es, hy, rfl⟩ := h
  refine (Run.exec_inductive
    (I := fun slot : Slot σ => slot.port.Inv t ∧ slot.port.BriefColumns)
    (fun slot e hi => ⟨inv_portStep hi.1 e, ?_⟩) es (s := newSlot intf subName y s)
    ⟨PmPort.inv_newPort intf subName hy, fun c _ value hvalue => by cases hvalue⟩).2
  cases e with
  | poll change =>
    rw [portStep_poll hi.1]
    exact hi.2.observe hi.1 _
  | publish => exact hi.2
  | modify intf' =>
    simp only [portStep, Pmd.Holds.port_ovsdbIfIntfModify]
    exact hi.2

/-! ## Reading the dump of a daemon -/

/--
**A dump can be read back, whatever vendors wrote into their modules.** In every state of the daemon
in which no interface has a newline in its name, the dump of all interfaces gives back the
interfaces in their order, each with the names and texts of its columns.
-/
theorem dump_read_back (P : Platform σ) (nameOf : Uuid → String) (hidl : idl.Named nameOf)
    {files : Subsystem → YamlFiles} (hfiles : YamlFiles.All (fun y => ∃ t, y.IsA t) files)
    (seqno : Nat) (world : σ) (db : Database) {es : List (Event σ)}
    (hes : ∀ e ∈ es, e.Known nameOf) :
    let s := Run.exec (step P) (initial P idl seqno files world db) es
    (∀ n ∈ s.pmd.ovsIntfs.keys, '\n' ∉ n.toList) →
      readDump (pmDebugDump s.pmd.ovsIntfs "" ["ops-pmd/dump"]) =
        s.pmd.ovsIntfs.map fun node => (node.1, node.2.dumped) := by
  intro s hnames
  have hlived : s.Lived P nameOf :=
    (System.Lived.initial (P := P) hidl hfiles seqno world db).exec hes
  have hblocks : s.pmd.ovsIntfs.map (fun node => (node.2.instanceName, node.2.dumped)) =
      s.pmd.ovsIntfs.map (fun node => (node.1, node.2.dumped)) := by
    refine List.map_congr_left fun ⟨n, p⟩ hm => ?_
    rw [hlived.ports.key n p hm]
  rw [pmDebugDump_all, hblocks]
  refine readDump_dumpText (fun b hb => ?_) fun b hb => ?_
  · obtain ⟨node, -, rfl⟩ := List.mem_map.mp hb
    exact node.2.ofColumns_dumped
  · obtain ⟨⟨n, p⟩, hm, rfl⟩ := List.mem_map.mp hb
    refine ⟨hnames n (List.mem_map_of_mem hm), fun e he => ?_⟩
    obtain ⟨c, hc, hentry⟩ := List.mem_filterMap.mp he
    obtain ⟨value, hvalue, rfl⟩ := Option.map_eq_some_iff.mp hentry
    exact (hlived.ports.port n p hm).briefColumns c hc value hvalue

/-- A module with good checksums whose vendor is called `"\n"`. -/
def newlinePage : Page := fun i => if i = 20 then 0x0a else if i = 63 then 0x1a else srPage i

/-- The dump of a port with such a module can be read back. -/
theorem dump_read_back_newline :
    let es : List (Event SimData) := [.readState fun d => { d with moduleData := some newlinePage }]
    let s := Run.exec (step simulation)
      (initial simulation onePortIdl 0 onePortFiles {} emptyDatabase) es
    (s.pmd.ovsIntfs.find "1").any (fun p => p.info .vendorName == some "\n") = true ∧
      readDump (pmDebugDump s.pmd.ovsIntfs "" ["ops-pmd/dump"]) =
        s.pmd.ovsIntfs.map fun node => (node.1, node.2.dumped) := by
  intro es s
  have hes : ∀ e ∈ es, e.Known fun _ => "1" := by simp [es, Event.Known]
  have hs : Run.exec (step simulation) (initial simulation onePortIdl 0 onePortFiles {}
    emptyDatabase) es = s := rfl
  have hread := dump_read_back simulation (fun _ => "1") named_onePortIdl known_onePortFiles 0 {}
    emptyDatabase hes
  rw [hs] at hread
  exact ⟨by decide +kernel, hread (by decide +kernel)⟩

end OpsPmd
