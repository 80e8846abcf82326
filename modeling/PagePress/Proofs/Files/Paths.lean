import Mathlib.Data.List.Basic
import PagePress.Files.DiskFile

/-!
Paths and the names that they are made of. Names joined by slashes are read back as the path of
these names. The path of a package without slashes is relative and goes down only.
-/

set_option autoImplicit false

namespace PagePress

namespace Text.Split

theorem parts_eq_splitOn (separator : Char) (cs : List Char) :
    parts separator cs = cs.splitOn separator := by
  induction cs with
  | nil => rfl
  | cons c rest ih =>
    rw [parts, List.splitOn, List.splitOnP_cons_eq_if_modifyHead, ← List.splitOn, ← ih]
    by_cases here : c = separator
    · simp [here]
    · cases split : parts separator rest with
      | nil => exact absurd split (parts_ne_nil separator rest)
      | cons part more => simp [here, attach]

theorem notMem_of_mem_parts {separator : Char} {cs part : List Char}
    (member : part ∈ parts separator cs) : separator ∉ part := by
  induction cs generalizing part with
  | nil =>
    obtain rfl : part = [] := by simpa [parts] using member
    exact List.not_mem_nil
  | cons c rest ih =>
    rw [parts] at member
    split at member
    · rcases List.mem_cons.1 member with rfl | later
      · exact List.not_mem_nil
      · exact ih later
    · rename_i other
      cases split : parts separator rest with
      | nil => exact absurd split (parts_ne_nil separator rest)
      | cons first more =>
        rw [split, attach] at member
        rcases List.mem_cons.1 member with rfl | later
        · have apart : separator ∉ first := ih (by simp [split])
          simp [apart, Ne.symm other]
        · exact ih (by simp [split, later])

private theorem mem_of_mem_parts {separator c : Char} {cs part : List Char}
    (member : part ∈ parts separator cs) (inside : c ∈ part) : c ∈ cs := by
  induction cs generalizing part with
  | nil =>
    obtain rfl : part = [] := by simpa [parts] using member
    cases inside
  | cons first rest ih =>
    rw [parts] at member
    split at member
    · rcases List.mem_cons.1 member with rfl | later
      · cases inside
      · exact List.mem_cons_of_mem first (ih later inside)
    · cases split : parts separator rest with
      | nil => exact absurd split (parts_ne_nil separator rest)
      | cons front more =>
        rw [split, attach] at member
        rcases List.mem_cons.1 member with rfl | later
        · rcases List.mem_cons.1 inside with rfl | deeper
          · exact List.mem_cons_self
          · exact List.mem_cons_of_mem first (ih (by simp [split]) deeper)
        · exact List.mem_cons_of_mem first (ih (by simp [split, later]) inside)

/-- Texts without the separator, joined by it, are the parts of what they are joined to. -/
theorem partsText_intercalate {separator : Char} {texts : List String} (some : texts ≠ [])
    (whole : ∀ text ∈ texts, separator ∉ text.toList) :
    partsText separator ((String.singleton separator).intercalate texts) = texts := by
  have joined : ((String.singleton separator).intercalate texts).toList =
      [separator].intercalate (texts.map String.toList) := by
    rw [String.toList_intercalate]
    simp
  have apart : ∀ cs ∈ texts.map String.toList, separator ∉ cs := by simpa using whole
  rw [partsText, joined, parts_eq_splitOn, List.splitOn_intercalate separator apart (by simpa)]
  simp

private theorem partsText_eq_singleton {separator : Char} {text : String}
    (whole : separator ∉ text.toList) : partsText separator text = [text] := by
  have alone : (String.singleton separator).intercalate [text] = text := by
    apply String.toList_injective
    simp
  have parts := partsText_intercalate (List.cons_ne_nil text []) (by simpa using whole)
  rwa [alone] at parts

end Text.Split

namespace Disk

structure IsName (part : String) : Prop where
  filled : part ≠ ""
  notHere : part ≠ "."
  notAbove : part ≠ ".."
  whole : '/' ∉ part.toList
  speakable : '\x00' ∉ part.toList
  short : part.utf8ByteSize ≤ nameLimit

instance (part : String) : Decidable (IsName part) :=
  decidable_of_iff (part ≠ "" ∧ part ≠ "." ∧ part ≠ ".." ∧ '/' ∉ part.toList ∧
    '\x00' ∉ part.toList ∧ part.utf8ByteSize ≤ nameLimit)
    ⟨fun ⟨a, b, c, d, e, f⟩ => ⟨a, b, c, d, e, f⟩, fun ⟨a, b, c, d, e, f⟩ => ⟨a, b, c, d, e, f⟩⟩

def GoesDown (part : String) : Prop := part ≠ "" ∧ part ≠ "." ∧ part ≠ ".."

instance (part : String) : Decidable (GoesDown part) :=
  inferInstanceAs (Decidable (part ≠ "" ∧ part ≠ "." ∧ part ≠ ".."))

theorem IsName.goesDown {part : String} (name : IsName part) : GoesDown part :=
  ⟨name.filled, name.notHere, name.notAbove⟩

end Disk

namespace Path

theorem join_of_relative (p : Path) {q : Path} (relative : q.anchor = .here) :
    p.join q = ⟨p.anchor, p.parts ++ q.parts⟩ := if_pos relative

theorem join_join_of_relative (p : Path) {q : Path} (relative : q.anchor = .here)
    (way : List String) : (p.join q).join ⟨.here, way⟩ = p.join ⟨.here, q.parts ++ way⟩ := by
  rw [join_of_relative p relative, join_of_relative _ rfl, join_of_relative _ rfl,
    List.append_assoc]

theorem suffix_append (anchor : Anchor) (front : List String) {way : List String}
    (filled : way ≠ []) : (⟨anchor, front ++ way⟩ : Path).suffix =
    (⟨.here, way⟩ : Path).suffix := by
  obtain ⟨init, last, rfl⟩ := (List.eq_nil_or_concat' way).resolve_left filled
  have same : (⟨anchor, front ++ (init ++ [last])⟩ : Path).name = (⟨.here, init ++ [last]⟩ : Path).name := by
    simp [name]
  rw [suffix, same, suffix]

theorem suffix_join (p : Path) {way : List String} (filled : way ≠ []) :
    (p.join ⟨.here, way⟩).suffix = (⟨.here, way⟩ : Path).suffix :=
  suffix_append p.anchor p.parts filled

/-- A path lies below another when it is that path with parts behind it. -/
theorem relativeTo?_eq_some_iff {p q way : Path} :
    p.relativeTo? q = some way ↔ way.anchor = .here ∧ p = q.join way := by
  obtain ⟨anchor, parts⟩ := p
  obtain ⟨anchor', front⟩ := way
  unfold relativeTo?
  constructor
  · intro below
    split at below
    · rename_i lies
      simp only [Bool.and_eq_true, decide_eq_true_eq, List.isPrefixOf_iff_prefix] at lies
      obtain ⟨rfl, rest, rfl⟩ := lies
      cases below
      exact ⟨rfl, by simp [join]⟩
    · cases below
  · rintro ⟨rfl, same⟩
    rw [join_of_relative q rfl] at same
    cases same
    simp

private theorem anchorOf_of_head {cs : List Char} (first : cs.head? ≠ some '/') :
    anchorOf (cs.takeWhile (· == '/')).length = .here := by
  cases cs with
  | nil => rfl
  | cons c rest =>
    have other : c ≠ '/' := fun slash => first (by simp [slash])
    simp [other, anchorOf]

private theorem ofString_of_whole {text : String} (whole : '/' ∉ text.toList) :
    ofString text = ⟨.here, [text].filter isPart⟩ := by
  have first : text.toList.head? ≠ some '/' := fun slash => whole (List.mem_of_head? slash)
  rw [ofString, anchorOf_of_head first, Text.Split.partsText_eq_singleton whole]

theorem ofString_intercalate {way : List String} (some : way ≠ [])
    (named : ∀ part ∈ way, Disk.IsName part) : ofString ("/".intercalate way) = ⟨.here, way⟩ := by
  have split : Text.Split.partsText '/' ("/".intercalate way) = way :=
    Text.Split.partsText_intercalate some fun part member => (named part member).whole
  have kept : way.filter isPart = way := by
    rw [List.filter_eq_self]
    intro part member
    have name := named part member
    simp [isPart, name.filled, name.notHere]
  have first : ("/".intercalate way).toList.head? ≠ Option.some '/' := by
    cases way with
    | nil => exact absurd rfl some
    | cons part more =>
      have name := named part List.mem_cons_self
      cases chars : part.toList with
      | nil => exact absurd (String.toList_eq_nil_iff.1 chars) name.filled
      | cons c rest =>
        have other : c ≠ '/' := fun slash => name.whole (by simp [chars, slash])
        cases more <;> simp [String.toList_intercalate, chars, other]
  rw [ofString, split, kept, anchorOf_of_head first]

end Path

namespace DiskFile

private theorem foldl_join (front pieces : List String)
    (whole : ∀ piece ∈ pieces, '/' ∉ piece.toList) :
    pieces.foldl (fun (p : Path) piece => p.join (Path.ofString piece)) ⟨.here, front⟩ =
      ⟨.here, front ++ pieces.filter Path.isPart⟩ := by
  induction pieces generalizing front with
  | nil => simp
  | cons piece rest ih =>
    obtain ⟨first, others⟩ := List.forall_mem_cons.1 whole
    rw [List.foldl_cons, Path.ofString_of_whole first]
    have joined : (⟨.here, front⟩ : Path).join ⟨.here, [piece].filter Path.isPart⟩ =
        ⟨.here, front ++ [piece].filter Path.isPart⟩ := rfl
    rw [joined, ih _ others, List.append_assoc, ← List.filter_append]
    rfl

/-- The path of a package without slashes has the parts of its name that are not empty. -/
theorem packagePath_eq {package : String} (whole : '/' ∉ package.toList) :
    packagePath package = ⟨.here, (Name.parts package).filter Path.isPart⟩ := by
  have pieces : ∀ piece ∈ Name.parts package, '/' ∉ piece.toList := by
    intro piece member slash
    obtain ⟨cs, part, rfl⟩ := List.mem_map.1 member
    rw [String.toList_ofList] at slash
    exact whole (Text.Split.mem_of_mem_parts part slash)
  exact foldl_join [] (Name.parts package) pieces

theorem packagePath_of_single {package : String} (whole : '/' ∉ package.toList)
    (single : '.' ∉ package.toList) (filled : package ≠ "") :
    packagePath package = ⟨.here, [package]⟩ := by
  have parts : Name.parts package = [package] := Text.Split.partsText_eq_singleton single
  have dotted : package ≠ "." := by
    rintro rfl
    exact single (by decide)
  rw [packagePath_eq whole, parts]
  simp [Path.isPart, filled, dotted]

private theorem goesDown_of_mem_ofString {text part : String} (dotless : '.' ∉ text.toList)
    (member : part ∈ (Path.ofString text).parts) : Disk.GoesDown part := by
  obtain ⟨piece, isPart⟩ := List.mem_filter.1 member
  obtain ⟨cs, split, rfl⟩ := List.mem_map.1 piece
  obtain ⟨filled, notHere⟩ : String.ofList cs ≠ "" ∧ String.ofList cs ≠ "." := by
    simpa [Path.isPart] using isPart
  refine ⟨filled, notHere, fun above => dotless (Text.Split.mem_of_mem_parts split ?_)⟩
  rw [← String.toList_ofList (l := cs), above]
  decide

theorem goesDown_of_mem_packagePath {package part : String}
    (member : part ∈ (packagePath package).parts) : Disk.GoesDown part := by
  have dotless : ∀ piece ∈ Name.parts package, '.' ∉ piece.toList := by
    intro piece inside
    obtain ⟨cs, split, rfl⟩ := List.mem_map.1 inside
    rw [String.toList_ofList]
    exact Text.Split.notMem_of_mem_parts split
  have along (pieces : List String) (dotless : ∀ piece ∈ pieces, '.' ∉ piece.toList) (p : Path)
      (down : ∀ part ∈ p.parts, Disk.GoesDown part) :
      ∀ part ∈ (pieces.foldl (fun p piece => p.join (Path.ofString piece)) p).parts,
        Disk.GoesDown part := by
    induction pieces generalizing p with
    | nil => exact down
    | cons piece rest ih =>
      obtain ⟨first, others⟩ := List.forall_mem_cons.1 dotless
      refine ih others _ fun part member => ?_
      change part ∈ (p.join (Path.ofString piece)).parts at member
      unfold Path.join at member
      split at member
      · rcases List.mem_append.1 member with before | behind
        · exact down part before
        · exact goesDown_of_mem_ofString first behind
      · exact goesDown_of_mem_ofString first member
  exact along (Name.parts package) dotless Path.here nofun part member

/-- The path of a package without slashes has the parts of its name that hold something. -/
theorem packagePath_eq_filled {package : String} (whole : '/' ∉ package.toList) :
    packagePath package = ⟨.here, (Name.parts package).filter (· ≠ "")⟩ := by
  rw [packagePath_eq whole]
  congr 1
  refine List.filter_congr fun piece member => ?_
  obtain ⟨cs, split, same⟩ := List.mem_map.1 member
  have notHere : piece ≠ "." := by
    rintro rfl
    have apart := Text.Split.notMem_of_mem_parts split
    rw [← String.toList_ofList (l := cs), same] at apart
    exact apart (by decide)
  by_cases filled : piece = "" <;> simp [Path.isPart, filled, notHere]

end DiskFile

end PagePress
