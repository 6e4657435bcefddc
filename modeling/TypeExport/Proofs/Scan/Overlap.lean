import TypeExport.Proofs.Action
import TypeExport.Scan.Import

/-!
# Loads that overlap

Several workers load files into one register.  A load takes a name for its module, registers the
module and runs its file, and between these steps there may be steps of other loads.  Loads that come
one after the other, each with all its steps, are what `loadFile` does.  Here a file runs at one
stroke, though the statements of files that run at once may come between one another as well.
-/

namespace TypeExport

open Importer

/-- A load of a file: the worlds before and after, and what it ends with. -/
structure FileLoad where
  place : Location
  before : World
  result : Except Failure ModuleHandle
  after : World

namespace FileLoad

/-- The load of a file in a world. -/
def of (imp : Importer) (w : World) (l : Location) : FileLoad :=
  let ending := (imp.loadFile l).run.run w
  { place := l, before := w, result := ending.1, after := ending.2 }

def name (imp : Importer) (load : FileLoad) : String :=
  imp.fileModuleName load.before load.place

def succeeds (load : FileLoad) : Bool :=
  match load.result with
  | .ok _ => true
  | .error _ => false

end FileLoad

/-- Loads files one after the other, whether they fail or not. -/
def Importer.loadEach (imp : Importer) : List Location → World → List FileLoad
  | [], _ => []
  | l :: rest, w => .of imp w l :: imp.loadEach rest (FileLoad.of imp w l).after

def worldAfter (w : World) (loads : List FileLoad) : World :=
  loads.foldl (fun _ load => load.after) w

/-- How far the load of a file has come. -/
inductive LoadState where
  | waiting
  | named (name : String)
  | registered (name : String) (index : Nat)
  | ended (result : Except Failure ModuleHandle)

def LoadState.name? (w : World) : LoadState → Option String
  | .ended (.ok h) => some (h.name w)
  | _ => none

namespace Importer

/-- The next step of a load. -/
def stepLoad (imp : Importer) (l : Location) : LoadState → World → LoadState × World
  | .waiting, w => (.named (imp.fileModuleName w l), w)
  | .named name, w =>
    let path := (Path.ofLocation l).text
    if !moduleExtension.toList.reverse.isPrefixOf path.toList.reverse then
      (.ended (.error (.noSource path)), w)
    else
      (.registered name w.modules.length, w.addModule
        { name, source := .file l, directories := none, names := [], ready := true })
  | .registered name index, w =>
    let ending := (imp.runFile (imp.importWithin imp.depth) index name l).run.run w
    (.ended (ending.1.map fun _ => .inside index), ending.2)
  | .ended result, w => (.ended result, w)

/-- Loads of files that take turns: the one whose number comes next does its next step. -/
def loadInTurns (imp : Importer) :
    List Nat → List (Location × LoadState) → World → List (Location × LoadState) × World
  | [], loads, w => (loads, w)
  | i :: turns, loads, w =>
    match loads[i]? with
    | none => imp.loadInTurns turns loads w
    | some (l, state) =>
      let next := imp.stepLoad l state w
      imp.loadInTurns turns (loads.set i (l, next.1)) next.2

/-- The turns of some loads one after the other, the first one having a number. -/
def wholeTurns (first : Nat) : Nat → List Nat
  | 0 => []
  | count + 1 => first :: first :: first :: wholeTurns (first + 1) count

variable {imp : Importer}

theorem worldAfter_cons (w : World) (load : FileLoad) (loads : List FileLoad) :
    worldAfter w (load :: loads) = worldAfter load.after loads :=
  rfl

/-- The steps of one load in a row. -/
theorem stepLoad_stepLoad_stepLoad (l : Location) (w : World) :
    let named := imp.stepLoad l .waiting w
    let registered := imp.stepLoad l named.1 named.2
    imp.stepLoad l registered.1 registered.2 =
      (.ended (FileLoad.of imp w l).result, (FileLoad.of imp w l).after) := by
  dsimp only [stepLoad]
  change Ends (imp.loadFile l) w fun result v => _ = (LoadState.ended result, v)
  unfold loadFile
  rw [ends_bind_iff, ends_get_iff]
  dsimp only
  split
  · exact rfl
  · rw [ends_bind_iff, ends_modify_iff]
    dsimp only
    rw [ends_bind_iff]
    unfold Ends
    cases (imp.runFile _ _ _ _).run.run _ with
    | mk ending v => cases ending <;> exact rfl

theorem loadInTurns_append (before after : List (Location × LoadState)) (l : Location)
    (state : LoadState) (turns : List Nat) (w : World) :
    imp.loadInTurns (before.length :: turns) (before ++ (l, state) :: after) w =
      imp.loadInTurns turns (before ++ (l, (imp.stepLoad l state w).1) :: after)
        (imp.stepLoad l state w).2 := by
  rw [loadInTurns, List.getElem?_append_right (Nat.le_refl _), Nat.sub_self, List.getElem?_cons_zero]
  dsimp only
  rw [List.set_append_right _ _ (Nat.le_refl _), Nat.sub_self, List.set_cons_zero]

/-- Loads with whole turns are loads one after the other; some may have been made `before`. -/
theorem loadInTurns_wholeTurns (imp : Importer) (before : List (Location × LoadState))
    (paths : List Location) (w : World) :
    imp.loadInTurns (wholeTurns before.length paths.length)
        (before ++ paths.map (·, .waiting)) w =
      (before ++ (imp.loadEach paths w).map fun load => (load.place, .ended load.result),
        worldAfter w (imp.loadEach paths w)) := by
  induction paths generalizing before w with
  | nil => simp [wholeTurns, loadInTurns, loadEach, worldAfter]
  | cons l rest ih =>
    have hafter := ih (before ++ [(l, .ended (FileLoad.of imp w l).result)])
      (FileLoad.of imp w l).after
    rw [List.length_append, List.length_singleton] at hafter
    rw [List.length_cons, wholeTurns, List.map_cons, loadInTurns_append, loadInTurns_append,
      loadInTurns_append, stepLoad_stepLoad_stepLoad, List.append_cons]
    exact hafter.trans (by simp [loadEach, worldAfter_cons, FileLoad.of])

end Importer

end TypeExport
