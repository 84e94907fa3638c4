import OpsPmd.Sim
import OpsPmd.Lib.Lines
import Mathlib.Data.List.DropRight

/-!
# The debug dump (`ovsdb_access.c`, `pmd.c`)

`ops-pmd/dump` prints the identification columns that are not null, of one interface or of all. The
raw pages and the diagnostics are not printed.

* `pmdUnixctlDump` — the reply to the command
* `toList_pmInterfaceDump` — an interface is a header line and a line for each column
* `readDump` — reading a dump of all interfaces
-/

namespace OpsPmd

/-! ## The text -/

/-- The columns that `pm_interface_dump` looks at, in its order. -/
def dumpedColumns : List InfoColumn :=
  [.cableLength, .cableTechnology, .connector, .connectorStatus, .supportedSpeeds, .maxSpeed,
    .powerMode, .vendorName, .vendorOui, .vendorPartNumber, .vendorRevision, .vendorSerialNumber]

/-- `"    cable_length           = %s\n"` and the like. -/
def columnText (name value : String) : String :=
  "    " ++ String.ofList (name.toList.rightpad 22 ' ') ++ " = " ++ value ++ "\n"

/-- `if (module->c) ds_put_format(ds, ...)`. -/
def dumpColumn (port : PmPort) (ds : String) (c : InfoColumn) : String :=
  match port.info c with
  | some value => ds ++ columnText c.name value
  | none => ds

/-- `pm_interface_dump`. -/
def pmInterfaceDump (ds : String) (port : PmPort) : String :=
  dumpedColumns.foldl (dumpColumn port)
    (ds ++ "Pluggable info for Interface " ++ port.instanceName ++ ":\n")

/-- `pm_interfaces_dump`, with `argv` up to `argc`. -/
def pmInterfacesDump (ovsIntfs : Shash String PmPort) (ds : String) (argv : List String) :
    String :=
  match argv with
  | _ :: _ :: name :: _ =>
    match ovsIntfs.find name with
    | some port => pmInterfaceDump ds port
    | none => ds
  | _ =>
    ovsIntfs.foldl (fun ds node => pmInterfaceDump ds node.2)
      (ds ++ "================ Interfaces ================\n")

/-- `pm_debug_dump`. There is one table, and any other name prints nothing. -/
def pmDebugDump (ovsIntfs : Shash String PmPort) (ds : String) (argv : List String) : String :=
  match argv with
  | _ :: tableName :: _ =>
    if tableName == "interface" then pmInterfacesDump ovsIntfs ds argv else ds
  | _ => pmInterfacesDump ovsIntfs ds []

/-- `pmd_unixctl_dump`. -/
def pmdUnixctlDump (ovsIntfs : Shash String PmPort) (argv : List String) : Reply :=
  .ok (pmDebugDump ovsIntfs "" argv)

/-! ## Its lines -/

/-- An interface in a dump: its name, and names and values of columns. -/
abbrev Block := String × Smap

def headerLine (name : String) : List Char :=
  "Pluggable info for Interface ".toList ++ name.toList ++ [':']

def entryLine (entry : String × String) : List Char :=
  "    ".toList ++ entry.1.toList.rightpad 22 ' ' ++ " = ".toList ++ entry.2.toList

def blockLines (block : Block) : List (List Char) := headerLine block.1 :: block.2.map entryLine

/-- The columns of a port that are dumped, under their names. -/
def PmPort.dumped (port : PmPort) : Smap :=
  dumpedColumns.filterMap fun c => (port.info c).map fun value => (c.name, value)

/-- The entries of a row that are dumped. -/
def Smap.dumped (row : Smap) : Smap :=
  dumpedColumns.filterMap fun c => (row.find c.name).map fun value => (c.name, value)

theorem toList_columnText (entry : String × String) :
    (columnText entry.1 entry.2).toList = entryLine entry ++ ['\n'] := by
  have hend : "\n".toList = ['\n'] := by decide
  have hname : (String.ofList (entry.1.toList.rightpad 22 ' ')).toList =
      entry.1.toList.rightpad 22 ' ' := String.toList_ofList
  unfold columnText entryLine
  rw [String.toList_append, String.toList_append, String.toList_append, String.toList_append,
    hname, hend]

/-- The lines of some columns. -/
theorem toList_foldl_dumpColumn (port : PmPort) : ∀ (columns : List InfoColumn) (ds : String),
    (columns.foldl (dumpColumn port) ds).toList =
      ds.toList ++ Lines.write '\n' ((columns.filterMap fun c =>
        (port.info c).map fun value => (c.name, value)).map entryLine)
  | [], ds => by simp
  | c :: columns, ds => by
    rw [List.foldl_cons, toList_foldl_dumpColumn port columns, List.filterMap_cons]
    unfold dumpColumn
    cases port.info c with
    | none => rfl
    | some value =>
      have htext := toList_columnText (c.name, value)
      simp only [Option.map_some, List.map_cons, Lines.write_cons, String.toList_append, htext,
        List.append_assoc, List.cons_append, List.nil_append]

/-- **What is printed of an interface is a header line and a line for each column.** -/
theorem toList_pmInterfaceDump (ds : String) (port : PmPort) :
    (pmInterfaceDump ds port).toList =
      ds.toList ++ Lines.write '\n' (blockLines (port.instanceName, port.dumped)) := by
  have hend : ":\n".toList = [':', '\n'] := by decide
  unfold pmInterfaceDump blockLines headerLine PmPort.dumped
  rw [toList_foldl_dumpColumn, Lines.write_cons]
  simp only [String.toList_append, hend, List.append_assoc, List.cons_append, List.nil_append]

/-! ## Reading a dump -/

/-- Name and value stand at fixed places of their line. -/
def readEntry (line : List Char) : String × String :=
  (String.ofList (((line.drop 4).take 22).rdropWhile (· = ' ')), String.ofList (line.drop 29))

/-- The name of the interface in a header line. -/
def readHeader (line : List Char) : String := String.ofList (line.drop 29).dropLast

/-- Entries that belong to a header before these lines, and the blocks in them. -/
def readBlocks : List (List Char) → Smap × List Block
  | [] => ([], [])
  | line :: rest =>
    let (entries, blocks) := readBlocks rest
    if line.head? = some ' ' then (readEntry line :: entries, blocks)
    else ([], (readHeader line, entries) :: blocks)

/-- Every line starts with 29 characters or more that the program prints itself. -/
def startsLine (part : List Char) : Bool := 29 ≤ part.length

/-- The interfaces in a dump of all of them, whose first line is a title. -/
def readDump (dump : String) : List Block :=
  (readBlocks ((Lines.gather startsLine '\n' (Lines.read '\n' dump.toList)).2.drop 1)).2

end OpsPmd
