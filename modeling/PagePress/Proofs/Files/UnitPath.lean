import Mathlib.Data.List.TakeWhile
import PagePress.Proofs.Files.Paths
import PagePress.Proofs.Naming

/-!
The file of a unit: its path has the parts of the dotted name, and the last one a suffix that tells
the kind. Main statements: the name and the kind are read back from the path, so that different units
have different files, and the directory of the file is that of the package of the name.
-/

set_option autoImplicit false

namespace PagePress

open Text

namespace Name

/-- A dotted name whose parts can name files, of something else than a package. -/
structure IsUnit (name : String) : Prop where
  filled : ∀ part ∈ Name.parts name, part ≠ ""
  whole : '/' ∉ name.toList
  speakable : '\x00' ∉ name.toList
  noPackage : (Name.parts name).getLast? ≠ some "__init__"

instance (name : String) : Decidable (IsUnit name) :=
  decidable_of_iff ((∀ part ∈ Name.parts name, part ≠ "") ∧ '/' ∉ name.toList ∧
    '\x00' ∉ name.toList ∧ (Name.parts name).getLast? ≠ some "__init__")
    ⟨fun ⟨a, b, c, d⟩ => ⟨a, b, c, d⟩, fun ⟨a, b, c, d⟩ => ⟨a, b, c, d⟩⟩

variable {name part : String}

theorem pointless_of_mem_parts (member : part ∈ Name.parts name) : '.' ∉ part.toList := by
  obtain ⟨cs, split, rfl⟩ := List.mem_map.1 member
  rw [String.toList_ofList]
  exact Split.notMem_of_mem_parts split

private theorem intercalate_parts (name : String) : ".".intercalate (Name.parts name) = name := by
  apply String.toList_injective
  have chars : (Name.parts name).map String.toList = Split.parts '.' name.toList := by
    simp [Name.parts, Split.partsText, Function.comp_def]
  rw [String.toList_intercalate, chars, Split.parts_eq_splitOn]
  exact List.intercalate_splitOn '.'

theorem exists_parts (name : String) : ∃ init last, Name.parts name = init ++ [last] :=
  (List.eq_nil_or_concat' (Name.parts name)).resolve_left (by
    simp [Name.parts, Split.partsText, Split.parts_ne_nil])

theorem parts_concat (package : String) {last : String} (pointless : '.' ∉ last.toList) :
    Name.parts (package ++ "." ++ last) = Name.parts package ++ [last] := by
  have some : Name.parts package ≠ [] := by simp [Name.parts, Split.partsText, Split.parts_ne_nil]
  have whole : ".".intercalate (Name.parts package ++ [last]) = package ++ "." ++ last := by
    rw [String.intercalate_append_of_ne_nil some (List.cons_ne_nil last []), intercalate_parts,
      String.intercalate_singleton]
  rw [← whole]
  refine Split.partsText_intercalate (by simp) fun part member => ?_
  rcases List.mem_append.1 member with front | back
  · exact pointless_of_mem_parts front
  · rwa [List.mem_singleton.1 back]

theorem isUnit_concat {package last : String} (filled : ∀ part ∈ Name.parts package, part ≠ "")
    (plain : '/' ∉ package.toList ∧ '\x00' ∉ package.toList) (some : last ≠ "")
    (named : last ≠ "__init__") (plainLast : ∀ c ∈ ['.', '/', '\x00'], c ∉ last.toList) :
    IsUnit (package ++ "." ++ last) := by
  have parts := parts_concat package (plainLast '.' (by simp))
  have absent {c : Char} (other : c ≠ '.') (early : c ∉ package.toList) (late : c ∉ last.toList) :
      c ∉ (package ++ "." ++ last).toList := by
    simp [other, early, late]
  refine ⟨?_, absent (by decide) plain.1 (plainLast '/' (by simp)),
    absent (by decide) plain.2 (plainLast '\x00' (by simp)), ?_⟩
  · intro part member
    rw [parts] at member
    rcases List.mem_append.1 member with front | back
    · exact filled part front
    · rwa [List.mem_singleton.1 back]
  · rw [parts]
    simpa using named

private theorem packageOf_of_parts {init : List String} {last : String}
    (split : Name.parts name = init ++ [last]) :
    Name.packageOf name = ".".intercalate init := by
  have member : last ∈ Name.parts name := by simp [split]
  have pointless := pointless_of_mem_parts member
  have whole := intercalate_parts name
  rw [split] at whole
  by_cases top : init = []
  · obtain rfl : last = name := by simpa [top] using whole
    rw [top, packageOf_eq_empty last pointless, String.intercalate_nil]
  · rw [String.intercalate_append_of_ne_nil top (List.cons_ne_nil last []),
      String.intercalate_singleton] at whole
    rw [← whole]
    exact packageOf_below pointless

end Name

namespace Path

private theorem stemLength?_append {front extension : List Char} (filled : front ≠ [])
    (some : extension ≠ []) (pointless : '.' ∉ extension) :
    stemLength? (front ++ '.' :: extension) = Option.some front.length := by
  have backwards : (front ++ '.' :: extension).reverse =
      extension.reverse ++ '.' :: front.reverse := by simp
  have tail : ((front ++ '.' :: extension).reverse.takeWhile (· != '.')).length =
      extension.length := by
    rw [backwards, List.takeWhile_append_of_pos fun c member => ?_]
    · simp
    · have other : c ≠ '.' := fun point => pointless (point ▸ List.mem_reverse.1 member)
      simp [other]
  have length : (front ++ '.' :: extension).length = front.length + extension.length + 1 := by
    simp only [List.length_append, List.length_cons]
    omega
  have stem := List.length_pos_iff.2 filled
  have rest := List.length_pos_iff.2 some
  simp only [stemLength?, tail, length]
  rw [if_pos]
  · congr 1
    omega
  · simp only [Bool.and_eq_true, decide_eq_true_eq]
    omega

private theorem stemLength?_of_pointless {cs : List Char} (pointless : '.' ∉ cs) :
    stemLength? cs = none := by
  have all : cs.reverse.takeWhile (· != '.') = cs.reverse := by
    rw [List.takeWhile_eq_self_iff]
    intro c member
    have other : c ≠ '.' := fun point => pointless (point ▸ List.mem_reverse.1 member)
    simpa using other
  simp [stemLength?, all]

end Path

private theorem Kind.exists_extension {kind : Kind} (modular : kind ≠ .other) :
    ∃ extension, kind.suffix.toList = '.' :: extension ∧ extension ≠ [] ∧ '.' ∉ extension := by
  cases kind with
  | source => exact ⟨['p', 'y'], by decide, by decide, by decide⟩
  | compiled => exact ⟨['p', 'y', 'c'], by decide, by decide, by decide⟩
  | other => exact absurd rfl modular

theorem Kind.ofSuffix?_suffix {kind : Kind} (modular : kind ≠ .other) :
    Kind.ofSuffix? kind.suffix = some kind := by
  cases kind with
  | source | compiled => decide
  | other => exact absurd rfl modular

namespace DiskFile

def unitPath (name : String) (kind : Kind) : Path :=
  ⟨.here, (Name.parts name).dropLast ++ [(Name.parts name).getLast?.getD "" ++ kind.suffix]⟩

variable {name : String} {kind : Kind}

theorem unitPath_of_parts {init : List String} {last : String}
    (split : Name.parts name = init ++ [last]) :
    unitPath name kind = ⟨.here, init ++ [last ++ kind.suffix]⟩ := by
  simp [unitPath, split]

private theorem name_chars {anchor : Anchor} {init : List String} {last : String} :
    (⟨anchor, init ++ [last ++ kind.suffix]⟩ : Path).name.toList =
      last.toList ++ kind.suffix.toList := by
  simp [Path.name]

private theorem stemLength?_name (modular : kind ≠ .other) {last : String} (filled : last ≠ "") :
    Path.stemLength? (last.toList ++ kind.suffix.toList) = some last.toList.length := by
  obtain ⟨extension, chars, more, pointless⟩ := Kind.exists_extension modular
  rw [chars]
  exact Path.stemLength?_append (by simpa using filled) more pointless

section Unit

variable (proper : Name.IsUnit name)

include proper

theorem forOutput_eq (root : Path) (kind : Kind) :
    forOutput root name kind = .ok ⟨root, unitPath name kind, kind⟩ := by
  obtain ⟨init, last, split⟩ := Name.exists_parts name
  have path : packagePath name = ⟨.here, init ++ [last]⟩ := by
    have all : (Name.parts name).filter (· ≠ "") = Name.parts name := by
      rw [List.filter_eq_self]
      intro part member
      simpa using proper.filled part member
    rw [packagePath_eq_filled proper.whole, all, split]
  have member : last ∈ Name.parts name := by simp [split]
  have filled := proper.filled last member
  have pointless := Name.pointless_of_mem_parts member
  have last_eq : (⟨.here, init ++ [last]⟩ : Path).name = last := by simp [Path.name]
  have stem : (⟨.here, init ++ [last]⟩ : Path).stem = last := by
    simp only [Path.stem, last_eq, Path.stemLength?_of_pointless pointless]
  have changed : (⟨.here, init ++ [last]⟩ : Path).withSuffix? kind.suffix =
      some (unitPath name kind) := by
    rw [Path.withSuffix?, last_eq, if_neg filled, stem, unitPath_of_parts split]
    simp
  simp only [forOutput, path, changed]

omit proper in
theorem suffix_unitPath (modular : kind ≠ .other) (filled : ∀ part ∈ Name.parts name, part ≠ "") :
    (unitPath name kind).suffix = kind.suffix := by
  obtain ⟨init, last, split⟩ := Name.exists_parts name
  have some : last ≠ "" := filled last (by simp [split])
  rw [unitPath_of_parts split]
  simp only [Path.suffix, name_chars, stemLength?_name modular some]
  rw [List.drop_left, String.ofList_toList]

theorem binaryName_unitPath (modular : kind ≠ .other) (root : Path) (kind' : Kind) :
    binaryName ⟨root, unitPath name kind, kind'⟩ = name := by
  obtain ⟨init, last, split⟩ := Name.exists_parts name
  have filled : last ≠ "" := proper.filled last (by simp [split])
  have stem : (⟨.here, init ++ [last ++ kind.suffix]⟩ : Path).stem = last := by
    simp only [Path.stem, name_chars, stemLength?_name modular filled]
    rw [List.take_left, String.ofList_toList]
  have ordinary : (init ++ [last]).getLast? ≠ some "__init__" := split ▸ proper.noPackage
  have components : (⟨.here, init ++ [last]⟩ : Path).components = init ++ [last] := rfl
  rw [unitPath_of_parts split]
  simp only [binaryName, stem, List.dropLast_concat, components, if_neg ordinary]
  rw [← split]
  exact Name.intercalate_parts name

theorem packagePath_packageOf :
    packagePath (Name.packageOf name) = ⟨.here, (Name.parts name).dropLast⟩ := by
  obtain ⟨init, last, split⟩ := Name.exists_parts name
  have package : Name.packageOf name = ".".intercalate init := Name.packageOf_of_parts split
  have member {part : String} (inside : part ∈ init) : part ∈ Name.parts name := by
    simp [split, inside]
  rw [split, List.dropLast_concat]
  by_cases top : init = []
  · rw [package, top, String.intercalate_nil]
    rfl
  · have parts : Name.parts (Name.packageOf name) = init := by
      rw [package]
      exact Split.partsText_intercalate top fun part inside =>
        Name.pointless_of_mem_parts (member inside)
    have whole : '/' ∉ (Name.packageOf name).toList := by
      by_cases packaged : Name.packageOf name = ""
      · simp [packaged]
      · exact fun slash => proper.whole (Name.mem_of_mem_packageOf packaged slash)
    rw [packagePath_eq_filled whole, parts]
    congr 1
    rw [List.filter_eq_self]
    intro part inside
    simpa using proper.filled part (member inside)

theorem goesDown_of_mem_unitPath (modular : kind ≠ .other) {part : String}
    (member : part ∈ (unitPath name kind).parts) : Disk.GoesDown part := by
  obtain ⟨init, last, split⟩ := Name.exists_parts name
  have whole (part : String) (inside : part ∈ Name.parts name) : Disk.GoesDown part := by
    have pointless := Name.pointless_of_mem_parts inside
    refine ⟨proper.filled part inside, ?_, ?_⟩ <;>
      · rintro rfl
        exact pointless (by decide)
  rw [unitPath_of_parts split] at member
  rcases List.mem_append.1 member with above | file
  · exact whole part (by simp [split, above])
  · -- The file has a character in front of the point and one behind it.
    obtain rfl := List.mem_singleton.1 file
    obtain ⟨extension, chars, more, -⟩ := Kind.exists_extension modular
    have filled : last ≠ "" := proper.filled last (by simp [split])
    have front := List.length_pos_iff.2 (show last.toList ≠ [] by simpa using filled)
    have back := List.length_pos_iff.2 more
    have length : 2 < (last ++ kind.suffix).toList.length := by
      rw [String.toList_append, chars, List.length_append, List.length_cons]
      omega
    refine ⟨?_, ?_, ?_⟩ <;>
      · intro same
        rw [same] at length
        exact absurd length (by decide)

omit proper in
/-- The last part of the path has a point, and none of the others has. -/
theorem point_mem_of_parts (modular : kind ≠ .other) (last : String) :
    '.' ∈ (last ++ kind.suffix).toList := by
  obtain ⟨extension, chars, -⟩ := Kind.exists_extension modular
  simp [chars]

end Unit

theorem unitPath_inj {name' : String} {kind' : Kind} (proper : Name.IsUnit name)
    (proper' : Name.IsUnit name') (modular : kind ≠ .other) (modular' : kind' ≠ .other)
    (same : unitPath name kind = unitPath name' kind') : name = name' ∧ kind = kind' := by
  constructor
  · have read := binaryName_unitPath proper modular Path.here .other
    rw [same, binaryName_unitPath proper' modular'] at read
    exact read.symm
  · have read := suffix_unitPath modular proper.filled
    rw [same, suffix_unitPath modular' proper'.filled] at read
    have told := Kind.ofSuffix?_suffix modular
    rw [← read, Kind.ofSuffix?_suffix modular'] at told
    exact (Option.some.inj told).symm

end DiskFile

end PagePress
