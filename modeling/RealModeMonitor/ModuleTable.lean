import RealModeMonitor.Trace.Traced

/-!
# Modules

What a session uses is provided by named modules. Opening a module opens what it depends on first,
and counts one reference for every way the dependencies lead to a module; closing gives the
references back. A module that nobody holds open can be unloaded.

**Opening** goes over the dependencies depth first (`Opening.enter`), and a module gets its
reference when all that it depends on is open. At the first missing name, cycle or old version it
ends, and the references given so far are taken back, the last one first (`Opening.undo`). Modules
that were loaded on the way stay loaded.

**Closing** works off a list of names. Each step gives back one reference or drops a name whose
count is 0 already, so it ends on every table, cyclic ones too.
-/

namespace RealModeMonitor

structure ModuleInfo where
  name : String
  version : UInt32
  /-- Modules opened before this one. -/
  deps : List String
  deriving DecidableEq

structure ModuleEntry where
  info : ModuleInfo
  openCount : Nat := 0
  loaded : Bool := false
  deriving DecidableEq

structure ModuleTable where
  entries : List ModuleEntry
  deriving DecidableEq

namespace ModuleTable

def ofInfos (infos : List ModuleInfo) : ModuleTable := ⟨infos.map fun info => { info }⟩

def builtin : List ModuleInfo :=
  [⟨"vm", 1, []⟩, ⟨"pic", 1, ["vm"]⟩, ⟨"pit", 1, ["vm", "pic"]⟩, ⟨"dma", 1, ["vm"]⟩,
    ⟨"cmos", 1, ["vm"]⟩]

/-- The built-in modules, none of them loaded. -/
def initial : ModuleTable := ofInfos builtin

def infos (t : ModuleTable) : List ModuleInfo := t.entries.map ModuleEntry.info

/-- The first module with this name, and its place. -/
def lookup? (infos : List ModuleInfo) (name : String) : Option (ModuleInfo × Nat) :=
  infos.zipIdx.find? fun (info, _) => info.name = name

def place? (t : ModuleTable) (name : String) : Option Nat := (lookup? t.infos name).map Prod.snd

def entry? (t : ModuleTable) (name : String) : Option ModuleEntry :=
  t.entries.find? fun e => e.info.name = name

def openCount? (t : ModuleTable) (name : String) : Option Nat :=
  (t.entry? name).map ModuleEntry.openCount

/-! ## References -/

/-- One more reference to the module at place `i`. -/
def refer (t : ModuleTable) (i : Nat) : ModuleTable :=
  ⟨t.entries.modify i fun e => { e with openCount := e.openCount + 1 }⟩

/-- Give back one reference to the module at place `i`. -/
def release (t : ModuleTable) (i : Nat) : ModuleTable :=
  ⟨t.entries.modify i fun e => { e with openCount := e.openCount - 1 }⟩

/-- Mark a module loaded. -/
def load (t : ModuleTable) (i : Nat) : Traced ModuleTable :=
  match t.entries[i]? with
  | some e =>
    if e.loaded then pure t
    else do
      Traced.tell (.moduleLoaded e.info.name e.info.version)
      return ⟨t.entries.set i { e with loaded := true }⟩
  | none => pure t

/-! ## Opening -/

/-- A table while a module is being opened, and the places that got a reference so far, the last
one first. -/
structure Opening where
  table : ModuleTable
  opened : List Nat := []

namespace Opening

/-- The module at place `i` is open, after all that it depends on. -/
def complete (s : Opening) (i : Nat) : Traced Opening := do
  let t ← s.table.load i
  return ⟨t.refer i, i :: s.opened⟩

mutual

/-- Open the module called `name`, of at least version `least`. `unvisited` are the places that
are not on the way here, so a module outside it closes a cycle. -/
def enter (s : Opening) (unvisited : List Nat) (name : String) (least : UInt32) :
    Traced (Except MonitorError Unit × Opening) :=
  match lookup? s.table.infos name with
  | none => pure (.error (.moduleNotFound name), s)
  | some (info, i) =>
    if i ∈ unvisited then
      if info.version < least then
        pure (.error (.moduleVersion info.name info.version least), s)
      else do
        let (r, s) ← s.enterAll (unvisited.erase i) info.deps
        match r with
        | .error e => return (.error e, s)
        | .ok () => return (.ok (), ← s.complete i)
    else pure (.error (.moduleCycle info.name), s)
termination_by (unvisited.length, 0)
decreasing_by
  have := List.length_erase_of_mem ‹i ∈ unvisited›
  have := List.length_pos_of_mem ‹i ∈ unvisited›
  exact Prod.Lex.left _ _ (by omega)

/-- Open modules one after the other, of any version. -/
def enterAll (s : Opening) (unvisited : List Nat) (names : List String) :
    Traced (Except MonitorError Unit × Opening) :=
  match names with
  | [] => pure (.ok (), s)
  | name :: rest => do
    let (r, s) ← s.enter unvisited name 0
    match r with
    | .error e => return (.error e, s)
    | .ok () => s.enterAll unvisited rest
termination_by (unvisited.length, names.length + 1)
decreasing_by
  · exact Prod.Lex.right _ (by omega)
  · exact Prod.Lex.right _ (by simp)

end

/-- Give back what was opened, the last reference first. -/
def undo (s : Opening) : ModuleTable := s.opened.foldl release s.table

end Opening

/-- Open the module called `name`, of at least version `least`, and first what it depends on. What
was opened before an error is given back. -/
def openModule (t : ModuleTable) (name : String) (least : UInt32) :
    Traced (Except MonitorError Unit × ModuleTable) := do
  let (r, s) ← Opening.enter ⟨t, []⟩ (List.range t.entries.length) name least
  return match r with
    | .error e => (.error e, s.undo)
    | .ok () => (.ok (), s.table)

/-! ## Closing -/

/-- All references together. -/
def references (t : ModuleTable) : Nat := t.entries.foldr (fun e n => e.openCount + n) 0

theorem references_release_lt (t : ModuleTable) (i : Nat) (e : ModuleEntry)
    (he : t.entries[i]? = some e) (hpos : 0 < e.openCount) :
    (t.release i).references < t.references := by
  simp only [references, release]
  generalize t.entries = entries at he
  induction entries generalizing i with
  | nil => simp at he
  | cons x rest ih =>
    cases i with
    | zero =>
      simp only [List.getElem?_cons_zero, Option.some.injEq] at he
      subst he
      simp only [List.modify_zero_cons, List.foldr_cons]
      omega
    | succ i =>
      simp only [List.getElem?_cons_succ] at he
      simp only [List.modify_succ_cons, List.foldr_cons]
      have := ih i he
      omega

/-- Give back one reference for each name, and then for what it depends on, last dependency
first. A name whose module is not open is skipped, an unknown one ends it all. -/
def closeAll (t : ModuleTable) (names : List String) :
    Traced (Except MonitorError Unit × ModuleTable) :=
  match names with
  | [] => pure (.ok (), t)
  | name :: rest =>
    match t.place? name with
    | none => pure (.error (.moduleNotFound name), t)
    | some i =>
      match _he : t.entries[i]? with
      | none => pure (.error (.moduleNotFound name), t)
      | some e =>
        if _hpos : 0 < e.openCount then
          (t.release i).closeAll (e.info.deps.reverse ++ rest)
        else do
          Traced.tell (.moduleNotOpen e.info.name)
          t.closeAll rest
termination_by (t.references, names.length)
decreasing_by
  · exact Prod.Lex.left _ _ (t.references_release_lt i e _he _hpos)
  · exact Prod.Lex.right _ (by simp)

/-- Give back one reference to a module and to what it depends on. -/
def closeModule (t : ModuleTable) (name : String) :
    Traced (Except MonitorError Unit × ModuleTable) :=
  t.closeAll [name]

/-! ## Unloading -/

/-- Unload a module that nobody holds open. -/
def expunge (t : ModuleTable) (name : String) : Traced (Except MonitorError Unit × ModuleTable) :=
  match t.place? name with
  | none => pure (.error (.moduleNotFound name), t)
  | some i =>
    match t.entries[i]? with
    | none => pure (.error (.moduleNotFound name), t)
    | some e =>
      if 0 < e.openCount then pure (.error (.moduleBusy e.info.name), t)
      else if e.loaded then do
        Traced.tell (.moduleExpunged e.info.name)
        return (.ok (), ⟨t.entries.set i { e with loaded := false }⟩)
      else pure (.ok (), t)

end ModuleTable
end RealModeMonitor
