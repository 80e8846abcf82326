import PagePress.Proofs.PageTask.Independence
import PagePress.Proofs.SyntaxTree

/-!
What the import check reports. It walks the tree of a unit through a queue, so it meets the import
statements in level order, each of them once; and of the modules that they import by their full
names it reports those that are not found in a listing of their package that shows something else.
-/

set_option autoImplicit false

namespace PagePress.PageTask

/-- A statement imports a module by its full name: as one of its names, or as the module that it
imports from, unless that is counted from the package of the unit. -/
inductive ImportsFully : SyntaxTree → ImportRequest → Prop
  | names {names : List String} {name : String} (line : Option Int) (named : name ∈ names) :
    ImportsFully (.importNames names line) ⟨name, line⟩
  | module {name : String} (line : Option Int) (filled : name ≠ "") :
    ImportsFully (.importFrom (some name) 0 line) ⟨name, line⟩

private theorem mem_requests_iff {node : SyntaxTree} {r : ImportRequest} :
    r ∈ node.requests ↔ ImportsFully node r := by
  constructor
  · intro member
    cases node with
    | node children => cases member
    | importNames names line =>
      obtain ⟨name, named, rfl⟩ := List.mem_map.1 member
      exact .names line named
    | importFrom module level line =>
      cases module with
      | none => cases member
      | some name =>
        simp only [SyntaxTree.requests] at member
        split at member
        · rename_i top
          obtain ⟨rfl, filled⟩ : level = 0 ∧ name ≠ "" := by simpa using top
          obtain rfl := List.mem_singleton.1 member
          exact .module line filled
        · cases member
  · rintro (⟨line, named⟩ | ⟨line, filled⟩)
    · exact List.mem_map_of_mem named
    · simp [SyntaxTree.requests, filled]

def packageFiles (m : FileAccess) (w : Workspace) (module : String) :
    Except Failure (List FileObject) :=
  m.list w .classPath (Name.packageOf module) [.source, .compiled] true

/-- A module is not found: it has a package, the listing of the package shows a name, and it shows
neither the module nor anything below it. -/
structure Unfound (m : FileAccess) (w : Workspace) (module : String) : Prop where
  packaged : Name.packageOf module ≠ ""
  hidden : ∃ objects, packageFiles m w module = .ok objects ∧
    (∃ object ∈ objects, ∃ name, m.binaryName w object = some name ∧ name ≠ "") ∧
    ∀ object ∈ objects, ∀ name, m.binaryName w object = some name →
      name ≠ module ∧ Name.isBelow name module = false

section Access

variable {m : FileAccess} {w : Workspace}

private theorem mem_kept {objects : List FileObject} {name : String} :
    name ∈ kept m w objects ↔
      name ≠ "" ∧ ∃ object ∈ objects, m.binaryName w object = some name := by
  simp [kept, and_comm]

private theorem shows_kept_eq_false_iff {objects : List FileObject} {module : String}
    (filled : module ≠ "") :
    shows (kept m w objects) module = false ↔
      (∃ object ∈ objects, ∃ name, m.binaryName w object = some name ∧ name ≠ "") ∧
      ∀ object ∈ objects, ∀ name, m.binaryName w object = some name →
        name ≠ module ∧ Name.isBelow name module = false := by
  have apart (name : String) : Name.isWithin name module = false ↔
      name ≠ module ∧ Name.isBelow name module = false := by simp [Name.isWithin]
  have unnamed : Name.isWithin "" module = false := by
    rw [← Bool.not_eq_true, Name.isWithin_iff, not_or]
    refine ⟨filled.symm, fun below => ?_⟩
    exact absurd (Name.length_lt_of_isBelow below) (by simp)
  rw [shows, Bool.or_eq_false_iff, List.isEmpty_eq_false_iff_exists_mem, List.any_eq_false]
  simp only [mem_kept, Bool.not_eq_true, ← apart]
  constructor
  · rintro ⟨⟨name, named, object, member, told⟩, hidden⟩
    refine ⟨⟨object, member, name, told, named⟩, fun object member name told => ?_⟩
    by_cases empty : name = ""
    · rw [empty, unnamed]
    · exact hidden name ⟨empty, object, member, told⟩
  · rintro ⟨⟨object, member, name, told, named⟩, hidden⟩
    refine ⟨⟨name, named, object, member, told⟩, ?_⟩
    rintro name ⟨-, object, member, told⟩
    exact hidden object member name told

private theorem seen_eq_false_iff {module : String} :
    seen m w module = .ok false ↔ Unfound m w module := by
  have filled (packaged : Name.packageOf module ≠ "") : module ≠ "" := by
    rintro rfl
    exact packaged rfl
  unfold seen
  by_cases top : Name.packageOf module = ""
  · simp only [top, if_true]
    constructor
    · intro shown
      cases shown
    · intro unfound
      exact absurd top unfound.packaged
  · simp only [top, if_false, listed]
    cases given : packageFiles m w module with
    | error failure =>
      rw [packageFiles] at given
      rw [given]
      constructor
      · intro shown
        cases shown
      · rintro ⟨-, objects, listed, -⟩
        cases given.symm.trans listed
    | ok objects =>
      have held : shows (kept m w objects) module = false ↔ _ :=
        shows_kept_eq_false_iff (filled top)
      have here := given
      rw [packageFiles] at here
      rw [here]
      simp only [Except.map, Except.ok.injEq, held]
      constructor
      · intro hidden
        exact ⟨top, objects, given, hidden⟩
      · rintro ⟨-, others, listed, hidden⟩
        obtain rfl : objects = others := Except.ok.inj (given.symm.trans listed)
        exact hidden

instance (module : String) : Decidable (Unfound m w module) :=
  decidable_of_iff ((seen m w module).toOption = some false) <| by
    rw [← seen_eq_false_iff]
    cases seen m w module <;> simp [Except.toOption]

private theorem seen_eq_error_iff {module : String} {failure : Failure} :
    seen m w module = .error failure ↔
      Name.packageOf module ≠ "" ∧ packageFiles m w module = .error failure := by
  unfold seen listed packageFiles
  by_cases top : Name.packageOf module = ""
  · simp [top]
  · simp only [top, if_false]
    cases m.list w .classPath (Name.packageOf module) [.source, .compiled] true <;>
      simp [Except.map, top]

/-- Requests are looked up until the package of one cannot be listed; what is not met are those of
them that are not found. -/
private theorem lookUp_seen (requests : List ImportRequest) :
    ∃ looked behind, requests = looked ++ behind ∧
      (∀ r ∈ looked, ∃ visible, seen m w r.module = .ok visible) ∧
      (lookUp (seen m w) requests).1 = looked.filter (fun r => Unfound m w r.module) ∧
      (behind = [] ∧ (lookUp (seen m w) requests).2 = .ok () ∨
        ∃ r rest failure, behind = r :: rest ∧ seen m w r.module = .error failure ∧
          (lookUp (seen m w) requests).2 = .error failure) := by
  induction requests with
  | nil => exact ⟨[], [], rfl, nofun, rfl, .inl ⟨rfl, rfl⟩⟩
  | cons r rest ih =>
    cases asked : seen m w r.module with
    | error failure =>
      have stopped : lookUp (seen m w) (r :: rest) = ([], .error failure) := by
        rw [lookUp, asked]
      refine ⟨[], r :: rest, rfl, nofun, ?_, .inr ⟨r, rest, failure, rfl, asked, ?_⟩⟩
      · rw [stopped]
        rfl
      · rw [stopped]
    | ok visible =>
      obtain ⟨looked, behind, rfl, given, unmet, ended⟩ := ih
      have goesOn : (lookUp (seen m w) (r :: (looked ++ behind))).2 =
          (lookUp (seen m w) (looked ++ behind)).2 := by
        rw [lookUp, asked]
        cases visible <;> rfl
      refine ⟨r :: looked, behind, rfl, List.forall_mem_cons.2 ⟨⟨visible, asked⟩, given⟩, ?_, ?_⟩
      · rw [lookUp, asked]
        cases visible with
        | true =>
          have found : ¬ Unfound m w r.module := by
            rw [← seen_eq_false_iff, asked]
            simp
          rw [List.filter_cons_of_neg (by simpa using found)]
          exact unmet
        | false =>
          have unfound : Unfound m w r.module := seen_eq_false_iff.1 asked
          rw [List.filter_cons_of_pos (by simpa using unfound)]
          exact congrArg (r :: ·) unmet
      · rw [goesOn]
        exact ended

end Access

/-- The imports by full names of all places of a tree, in level order. -/
def importsInOrder (tree : SyntaxTree) : List ImportRequest :=
  tree.allPlaces.flatMap fun place => ((tree.at? place).map SyntaxTree.requests).getD []

private theorem allRequests_eq (tree : SyntaxTree) : tree.allRequests = importsInOrder tree := by
  have met : importsInOrder tree =
      (tree.allPlaces.map tree.at?).flatMap fun node => (node.map SyntaxTree.requests).getD [] := by
    rw [importsInOrder, List.flatMap_map]
  rw [met, SyntaxTree.map_at?_allPlaces, List.flatMap_map]
  rfl

/-- The import check goes through the places of a tree in level order, each of them once, and
through the imports by full names there, until the package of one cannot be listed. It reports those
that are not found, one error for each with the line of its statement, changes nothing else, and
passes when there are none; when a package cannot be listed it breaks. -/
theorem import_check_reports_what_is_not_found (m : FileAccess) (w : Workspace) (u : SourceUnit)
    (tree : SyntaxTree) {known : Listings} (faithful : Faithful m w known) :
    let ran := (checkImports u known tree.allRequests).run m w
    tree.allPlaces.Pairwise SyntaxTree.Precedes ∧
    (∀ place, place ∈ tree.allPlaces ↔ (tree.at? place).isSome = true) ∧
    (SyntaxTree.queueWalk [tree]).map some = tree.allPlaces.map tree.at? ∧
    ∃ looked behind, importsInOrder tree = looked ++ behind ∧
      (∀ r ∈ looked, Name.packageOf r.module = "" ∨
        ∃ objects, packageFiles m w r.module = .ok objects) ∧
      let reported := (looked.filter fun r => Unfound m w r.module).map (missing u)
      ran.2 = { w with diagnostics := w.diagnostics ++ reported } ∧
      (∀ d ∈ reported, ∃ place node r, tree.at? place = some node ∧ ImportsFully node r ∧
        Unfound m w r.module ∧
        d = ⟨.error, "cannot find module '" ++ r.module ++ "'", r.line, some u.uri⟩) ∧
      (behind = [] ∧ (∃ later, ran.1 = .ok (reported.isEmpty, later)) ∨
        ∃ r rest failure, behind = r :: rest ∧ Name.packageOf r.module ≠ "" ∧
          packageFiles m w r.module = .error failure ∧ ran.1 = .error failure) := by
  intro ran
  have walked : (SyntaxTree.queueWalk [tree]).map some = tree.allPlaces.map tree.at? := by
    rw [SyntaxTree.queueWalk_eq_levels, SyntaxTree.map_at?_allPlaces]
    rfl
  obtain ⟨later, -, checked⟩ :=
    run_checkImports_of_faithful m w u tree.allRequests (.refl w) faithful
  obtain ⟨looked, behind, split, given, unmet, ended⟩ :=
    lookUp_seen (m := m) (w := w) tree.allRequests
  have ranEq : ran = _ := checked
  rw [unmet] at ranEq
  refine ⟨tree.pairwise_allPlaces, fun place => SyntaxTree.mem_allPlaces, walked, looked, behind,
    (allRequests_eq tree).symm.trans split, ?_, ?_, ?_, ?_⟩
  · intro r member
    obtain ⟨visible, seen⟩ := given r member
    by_cases top : Name.packageOf r.module = ""
    · exact .inl top
    · cases files : packageFiles m w r.module with
      | error failure => cases seen.symm.trans (seen_eq_error_iff.2 ⟨top, files⟩)
      | ok objects => exact .inr ⟨objects, rfl⟩
  · rw [ranEq]
  · intro d reported
    obtain ⟨r, member, rfl⟩ := List.mem_map.1 reported
    obtain ⟨asked, unfound⟩ := List.mem_filter.1 member
    have inTree : r ∈ importsInOrder tree := by
      rw [← allRequests_eq, split]
      exact List.mem_append_left behind asked
    obtain ⟨place, -, here⟩ := List.mem_flatMap.1 inTree
    cases node : tree.at? place with
    | none =>
      rw [node] at here
      cases here
    | some node' =>
      rw [node] at here
      exact ⟨place, node', r, node, mem_requests_iff.1 here, of_decide_eq_true unfound, rfl⟩
  · rcases ended with ⟨rfl, ended⟩ | ⟨r, rest, failure, rfl, broken, ended⟩
    · refine .inl ⟨rfl, later, ?_⟩
      rw [ranEq, ended]
      simp [Except.map]
    · obtain ⟨packaged, files⟩ := seen_eq_error_iff.1 broken
      refine .inr ⟨r, rest, failure, rfl, packaged, files, ?_⟩
      rw [ranEq, ended]
      rfl

/-- Of the imports of a unit two are not found: the one at the top is reported first, though it
stands behind the other in the text. What is imported from the package of the unit is left out. -/
theorem missing_imports_reported_by_level :
    let tree : SyntaxTree := .node
      [.node [.importFrom (some "generated.C") 0 (some 1),
          .importFrom (some "generated.E") 1 (some 2)],
        .importNames ["generated.B", "generated.D", "os"] (some 3)]
    let u : SourceUnit := ⟨"generated.A", "", "utf-8"⟩
    let m : FileAccess := .virtual .standard "generated"
    let w := Workspace.start .empty ((Store.empty ⟨0, []⟩).put "generated.B" (some [0])).2
    let known : Listings := [("generated", ["generated.B"])]
    let ran := (checkImports u known tree.allRequests).run m w
    Faithful m w known ∧
      (importsInOrder tree).map (·.module) = ["generated.B", "generated.D", "os", "generated.C"] ∧
      ran.2.diagnostics = [missing u ⟨"generated.D", some 3⟩, missing u ⟨"generated.C", some 1⟩] ∧
      ∃ later, ran.1 = .ok (false, later) := by
  intro tree u m w known ran
  have faithful : Faithful m w known := by
    intro package names member
    obtain ⟨rfl, rfl⟩ : package = "generated" ∧ names = ["generated.B"] := by
      simpa [known] using member
    exact PageCompiler.ok_of_toOption (by decide +kernel)
  obtain ⟨-, -, -, looked, behind, split, -, left, -, ended⟩ :=
    import_check_reports_what_is_not_found m w u tree faithful
  have inOrder : (importsInOrder tree).map (·.module) =
      ["generated.B", "generated.D", "os", "generated.C"] := by decide +kernel
  have reported : ran.2.diagnostics =
      [missing u ⟨"generated.D", some 3⟩, missing u ⟨"generated.C", some 1⟩] := by decide +kernel
  refine ⟨faithful, inOrder, reported, ?_⟩
  rcases ended with ⟨-, later, passed⟩ | ⟨r, rest, failure, -, -, -, broken⟩
  · have filled : ((looked.filter fun r => Unfound m w r.module).map (missing u)) ≠ [] := by
      intro none
      rw [none] at left
      have quiet : ran.2.diagnostics = [] := congrArg Workspace.diagnostics left
      rw [reported] at quiet
      cases quiet
    refine ⟨later, passed.trans ?_⟩
    rw [List.isEmpty_eq_false_iff.2 filled]
  · have answers : ran.1.toOption.isSome = true := by decide +kernel
    rw [show ran.1 = .error failure from broken] at answers
    cases answers

end PagePress.PageTask
