import PagePress.Proofs.CommandLine.Configured

/-!
The texts that a run of the command line reads: its source, and the document of its line map. A text
that is missing, or does not fit its encoding, is reported, and so is a document that cannot be read;
what is not reported is told here.
-/

set_option autoImplicit false

namespace PagePress

theorem bind_eq_ok_iff {α β : Type} {answer : Except Failure α} {next : α → Except Failure β}
    {result : β} : (answer >>= next) = .ok result ↔ ∃ a, answer = .ok a ∧ next a = .ok result := by
  cases answer <;> simp [bind, Except.bind]

theorem bind_eq_error_iff {α β : Type} {answer : Except Failure α} {next : α → Except Failure β}
    {failure : Failure} :
    (answer >>= next) = .error failure ↔
      answer = .error failure ∨ ∃ a, answer = .ok a ∧ next a = .error failure := by
  cases answer <;> simp [bind, Except.bind]

private theorem mapError_eq_ok_iff {ε ε' α : Type} {answer : Except ε α} {f : ε → ε'} {result : α} :
    answer.mapError f = .ok result ↔ answer = .ok result := by
  cases answer with
  | error => exact iff_of_false nofun nofun
  | ok => constructor <;> (rintro ⟨⟩; rfl)

theorem mapError_eq_error_iff {ε ε' α : Type} {answer : Except ε α} {f : ε → ε'} {error : ε'} :
    answer.mapError f = .error error ↔ ∃ e, answer = .error e ∧ f e = error := by
  cases answer with
  | error e => exact ⟨fun same => ⟨e, rfl, Except.error.inj same⟩, by rintro ⟨_, ⟨⟩, rfl⟩; rfl⟩
  | ok => exact iff_of_false nofun (by rintro ⟨_, ⟨⟩, _⟩)

namespace CommandLine

/-! The source. -/

/-- The failures of reading a text that are not reported: there is no name of an encoding, or it is
that of none in which a file that can be read could be opened. -/
inductive TextBreak [Text.Encodings] (d : Disk) (path : String) : Given → Failure → Prop
  | nameless : TextBreak d path none .noEncodingName
  | unknown {encoding : String} {file : Node} (read : d.readWritten path = .ok file)
    (unknown : openedAs encoding = .unknown) :
    TextBreak d path (some encoding) (.unknownEncoding encoding)
  | transformation {encoding : String} {file : Node} (read : d.readWritten path = .ok file)
    (transformation : openedAs encoding = .transformation) :
    TextBreak d path (some encoding) (.notTextEncoding encoding "open")

private theorem readText_some [Text.Encodings] (d : Disk) (path encoding : String) :
    readText d path (some encoding) =
      match openedAs encoding with
      | .unspeakable => .error .nullCharacter
      | name =>
        match d.readWritten path with
        | .error e => .error (.disk e)
        | .ok file =>
          match name with
          | .text e => decode e file.content
          | .transformation => .error (.notTextEncoding encoding "open")
          | _ => .error (.unknownEncoding encoding) := by
  unfold readText
  dsimp only
  cases openedAs encoding with
  | unspeakable => rfl
  | _ => cases d.readWritten path <;> rfl

private theorem decode_reported {e : Text.Encoding} {bytes : Bytes} {failure : Failure}
    (fails : decode e bytes = .error failure) : isReported failure = true := by
  unfold decode at fails
  split at fails <;> cases fails
  rfl

theorem readText_unreported_iff [Text.Encodings] {d : Disk} {path : String} {encoding : Given}
    {failure : Failure} :
    (readText d path encoding = .error failure ∧ isReported failure = false) ↔
      TextBreak d path encoding failure := by
  cases encoding with
  | none =>
    constructor
    · rintro ⟨⟨⟩, -⟩
      exact .nameless
    · rintro ⟨⟩
      exact ⟨rfl, rfl⟩
  | some encoding =>
    rw [readText_some]
    constructor
    · rintro ⟨fails, unreported⟩
      cases kind : openedAs encoding with
      | unspeakable =>
        rw [kind] at fails
        cases fails
        cases unreported
      | text e =>
        simp only [kind] at fails
        cases read : d.readWritten path with
        | error e =>
          rw [read] at fails
          cases fails
          cases unreported
        | ok file =>
          rw [read] at fails
          rw [decode_reported fails] at unreported
          cases unreported
      | transformation =>
        simp only [kind] at fails
        cases read : d.readWritten path with
        | error e =>
          rw [read] at fails
          cases fails
          cases unreported
        | ok file =>
          rw [read] at fails
          cases fails
          exact .transformation read kind
      | unknown =>
        simp only [kind] at fails
        cases read : d.readWritten path with
        | error e =>
          rw [read] at fails
          cases fails
          cases unreported
        | ok file =>
          rw [read] at fails
          cases fails
          exact .unknown read kind
    · rintro (_ | ⟨read, kind⟩ | ⟨read, kind⟩)
      · exact ⟨by simp [kind, read], rfl⟩
      · exact ⟨by simp [kind, read], rfl⟩

theorem readText_ok [Text.Encodings] {d : Disk} {path : String} {encoding : Given}
    {text : List Char} (read : readText d path encoding = .ok text) :
    ∃ name e, encoding = some name ∧ openedAs name = .text e := by
  cases encoding with
  | none => cases read
  | some name =>
    rw [readText_some] at read
    cases kind : openedAs name with
    | text e => exact ⟨name, e, rfl, kind⟩
    | unspeakable =>
      rw [kind] at read
      cases read
    | transformation | unknown =>
      simp only [kind] at read
      split at read <;> cases read

/-! The line map. -/

def AreLines (fields : List (String × Datum)) : Prop := ∃ pairs, linePairs fields = .ok pairs

/-- The failures of the document of a line map that are not reported: it is no record, or the first
line in it that cannot be converted is one of the template that is no number at all, or an infinite
one. -/
inductive DocumentBreak : Datum → Failure → Prop
  | shape {document : Datum} (noRecord : ∀ fields, document ≠ .record fields) :
    DocumentBreak document (.noAttribute document.kindName "items")
  | template {front rest : List (String × Datum)} {line : String} {value : Datum} {n : Int}
    {fault : Datum.IntegerFault} (before : AreLines front)
    (counted : (Datum.text line).toInt = .ok n) (fails : value.toInt = .error fault)
    (noText : fault = .infinity ∨ ∃ kind, fault = .noNumber kind) :
    DocumentBreak (.record (front ++ (line, value) :: rest)) (.notAnInteger fault)

theorem linePairs_cons (line : String) (value : Datum) (rest : List (String × Datum)) :
    linePairs ((line, value) :: rest) = (do
      let line ← (Datum.text line).toInt.mapError .notAnInteger
      let template ← value.toInt.mapError .notAnInteger
      let rest ← linePairs rest
      pure ((.int line, .plain (.int template)) :: rest)) := rfl

private theorem linePairs_eq_ok_cons {line : String} {value : Datum} {rest : List (String × Datum)}
    {pairs : List (Datum × Target)} :
    linePairs ((line, value) :: rest) = .ok pairs ↔
      ∃ n k more, (Datum.text line).toInt = .ok n ∧ value.toInt = .ok k ∧
        linePairs rest = .ok more ∧ (.int n, .plain (.int k)) :: more = pairs := by
  simp only [linePairs_cons, bind_eq_ok_iff, mapError_eq_ok_iff, pure, Except.pure, Except.ok.injEq]
  constructor
  · rintro ⟨n, first, k, second, more, later, same⟩
    exact ⟨n, k, more, first, second, later, same⟩
  · rintro ⟨n, k, more, first, second, later, same⟩
    exact ⟨n, first, k, second, more, later, same⟩

private theorem linePairs_eq_error_cons {line : String} {value : Datum}
    {rest : List (String × Datum)} {failure : Failure} :
    linePairs ((line, value) :: rest) = .error failure ↔
      (∃ fault, (Datum.text line).toInt = .error fault ∧ .notAnInteger fault = failure) ∨
      ∃ n, (Datum.text line).toInt = .ok n ∧
        ((∃ fault, value.toInt = .error fault ∧ .notAnInteger fault = failure) ∨
          ∃ k, value.toInt = .ok k ∧ linePairs rest = .error failure) := by
  simp only [linePairs_cons, bind_eq_error_iff, mapError_eq_ok_iff, mapError_eq_error_iff]
  simp [pure, Except.pure]

private theorem toInt_text_fault {line : String} {fault : Datum.IntegerFault}
    (fails : (Datum.text line).toInt = .error fault) : ∃ fault', fault = .badText fault' := by
  obtain ⟨fault', -, rfl⟩ := mapError_eq_error_iff.1 fails
  exact ⟨fault', rfl⟩

private theorem notAnInteger_unreported_iff (fault : Datum.IntegerFault) :
    isReported (.notAnInteger fault) = false ↔
      fault = .infinity ∨ ∃ kind, fault = .noNumber kind := by
  cases fault <;> simp [isReported]

private theorem linePairs_unreported_iff {fields : List (String × Datum)} {failure : Failure} :
    (linePairs fields = .error failure ∧ isReported failure = false) ↔
      DocumentBreak (.record fields) failure := by
  constructor
  · rintro ⟨fails, unreported⟩
    obtain ⟨front, line, value, rest, n, fault, rfl, before, counted, broken, rfl⟩ :
        ∃ front line value rest n fault, fields = front ++ (line, value) :: rest ∧
          AreLines front ∧ (Datum.text line).toInt = .ok n ∧ value.toInt = .error fault ∧
          .notAnInteger fault = failure := by
      induction fields with
      | nil => cases fails
      | cons field rest ih =>
        obtain ⟨line, value⟩ := field
        rcases linePairs_eq_error_cons.1 fails with
          ⟨fault, broken, rfl⟩ | ⟨n, counted, ⟨fault, broken, rfl⟩ | ⟨k, read, later⟩⟩
        · obtain ⟨fault', rfl⟩ := toInt_text_fault broken
          cases unreported
        · exact ⟨[], line, value, rest, n, fault, rfl, ⟨[], rfl⟩, counted, broken, rfl⟩
        · obtain ⟨front, line', value', behind, m, fault, rfl, ⟨pairs, before⟩, told⟩ := ih later
          exact ⟨(line, value) :: front, line', value', behind, m, fault, rfl,
            ⟨_, linePairs_eq_ok_cons.2 ⟨n, k, pairs, counted, read, before, rfl⟩⟩, told⟩
    exact .template before counted broken ((notAnInteger_unreported_iff fault).1 unreported)
  · intro breaks
    generalize shape : Datum.record fields = document at breaks
    cases breaks with
    | shape noRecord => exact absurd shape.symm (noRecord fields)
    | @template front rest line value n fault before counted fails noText =>
      refine ⟨?_, (notAnInteger_unreported_iff fault).2 noText⟩
      rw [Datum.record.inj shape]
      clear shape
      obtain ⟨pairs, before⟩ := before
      induction front generalizing pairs with
      | nil => exact linePairs_eq_error_cons.2 (.inr ⟨n, counted, .inl ⟨fault, fails, rfl⟩⟩)
      | cons field front ih =>
        obtain ⟨first, target⟩ := field
        obtain ⟨m, k, more, here, there, later, -⟩ := linePairs_eq_ok_cons.1 before
        exact linePairs_eq_error_cons.2 (.inr ⟨m, here, .inr ⟨k, there, ih more later⟩⟩)

def AreNumbers (pairs : List (Datum × Target)) : Prop :=
  ∀ pair ∈ pairs, ∃ n k, pair = (.int n, .plain (.int k))

private theorem areNumbers_of_linePairs {fields : List (String × Datum)}
    {pairs : List (Datum × Target)} (read : linePairs fields = .ok pairs) : AreNumbers pairs := by
  induction fields generalizing pairs with
  | nil =>
    cases read
    nofun
  | cons field rest ih =>
    obtain ⟨line, value⟩ := field
    obtain ⟨n, k, more, -, -, later, rfl⟩ := linePairs_eq_ok_cons.1 read
    exact List.forall_mem_cons.2 ⟨⟨n, k, rfl⟩, ih later⟩

private theorem AreNumbers.setPair {mapping : List (Datum × Target)} (numbers : AreNumbers mapping)
    (n k : Int) : AreNumbers (LineMap.setPair mapping (.int n) (.plain (.int k))) := by
  unfold LineMap.setPair
  split
  · intro pair member
    obtain ⟨old, inside, rfl⟩ := List.mem_map.1 member
    obtain ⟨m, l, rfl⟩ := numbers old inside
    dsimp only
    split
    · exact ⟨m, k, rfl⟩
    · exact ⟨m, l, rfl⟩
  · exact List.forall_mem_append.2 ⟨numbers, List.forall_mem_singleton.2 ⟨n, k, rfl⟩⟩

private theorem areNumbers_mappingOf {pairs : List (Datum × Target)} (numbers : AreNumbers pairs) :
    AreNumbers (LineMap.mappingOf pairs) := by
  have known : AreNumbers [] := nofun
  unfold LineMap.mappingOf
  generalize ([] : List (Datum × Target)) = mapping at known
  induction pairs generalizing mapping with
  | nil => exact known
  | cons pair rest ih =>
    obtain ⟨⟨n, k, rfl⟩, others⟩ := List.forall_mem_cons.1 numbers
    exact ih others _ (known.setPair n k)

private theorem ofMapping_reported {pairs : List (Datum × Target)} (numbers : AreNumbers pairs)
    {file : Datum} {failure : Failure} (fails : LineMap.ofMapping pairs file = .error failure) :
    isReported failure = true := by
  unfold LineMap.ofMapping at fails
  generalize LineMap.empty = m at fails
  induction pairs generalizing m with
  | nil => cases fails
  | cons pair rest ih =>
    obtain ⟨⟨n, k, rfl⟩, others⟩ := List.forall_mem_cons.1 numbers
    rw [List.foldlM_cons] at fails
    rcases bind_eq_error_iff.1 fails with here | ⟨next, -, later⟩
    · change m.add n k file = .error failure at here
      unfold LineMap.add at here
      split at here <;> cases here
      rfl
    · exact ih others next later

/-- The failures of reading a line map that are not reported: the document is nested too deep, or it
is not one of lines. -/
inductive MapBreak [Text.Encodings] (d : Disk) (path : String) : Failure → Prop
  | tooDeep {cs : List Char} {nested : Datum.Json.Nested}
    (text : readText d path (some "utf-8") = .ok cs)
    (deep : Datum.Json.read Datum.Json.usualDepth cs = .error (.tooDeep nested)) :
    MapBreak d path (.document (.tooDeep nested) cs)
  | document {cs : List Char} {document : Datum} {failure : Failure}
    (text : readText d path (some "utf-8") = .ok cs)
    (read : Datum.Json.read Datum.Json.usualDepth cs = .ok document)
    (breaks : DocumentBreak document failure) : MapBreak d path failure

private theorem lineMapOf_unreported_iff {document : Datum} {failure : Failure} :
    (lineMapOf document = .error failure ∧ isReported failure = false) ↔
      DocumentBreak document failure := by
  by_cases shape : ∃ fields, document = .record fields
  · obtain ⟨fields, rfl⟩ := shape
    rw [← linePairs_unreported_iff]
    refine and_congr_left fun unreported => ?_
    rw [lineMapOf, bind_eq_error_iff]
    refine or_iff_left ?_
    rintro ⟨pairs, read, fails⟩
    rw [ofMapping_reported (areNumbers_mappingOf (areNumbers_of_linePairs read)) fails] at unreported
    cases unreported
  · have noRecord (fields : List (String × Datum)) : document ≠ .record fields :=
      fun same => shape ⟨fields, same⟩
    have told : lineMapOf document = .error (.noAttribute document.kindName "items") := by
      cases document <;> first | rfl | exact absurd rfl (noRecord _)
    rw [told]
    constructor
    · rintro ⟨⟨⟩, -⟩
      exact .shape noRecord
    · rintro (_ | _)
      · exact ⟨rfl, rfl⟩
      · exact absurd rfl (noRecord _)

private theorem utf8_reported [Text.Encodings] {d : Disk} {path : String} {failure : Failure}
    (fails : readText d path (some "utf-8") = .error failure) : isReported failure = true := by
  have kind : openedAs "utf-8" = .text Text.Codec.utf8.encoding := Text.EncodingName.of_utf8
  cases reported : isReported failure with
  | true => rfl
  | false =>
    cases readText_unreported_iff.1 ⟨fails, reported⟩ with
    | unknown _ other | transformation _ other => cases kind.symm.trans other

theorem readLineMap_unreported_iff [Text.Encodings] {d : Disk} {given : Option String}
    {failure : Failure} :
    (readLineMap d given = .error failure ∧ isReported failure = false) ↔
      ∃ path, Names given path ∧ MapBreak d path failure := by
  unfold readLineMap
  split
  · rename_i none
    refine iff_of_false (fun told => nomatch told.1) ?_
    rintro ⟨path, named, -⟩
    exact filter_eq_none_iff.1 none path named
  · rename_i path some
    rw [(filter_eq_some_iff.1 some).exists_iff]
    simp only [bind_eq_error_iff, mapError_eq_ok_iff, mapError_eq_error_iff]
    constructor
    · rintro ⟨fails | ⟨cs, text, ⟨fault, fails, rfl⟩ | ⟨document, read, fails⟩⟩, unreported⟩
      · rw [utf8_reported fails] at unreported
        cases unreported
      · cases fault with
        | tooDeep nested => exact .tooDeep text fails
        | malformed | integer => cases unreported
      · refine .document text read (lineMapOf_unreported_iff.1 ⟨?_, unreported⟩)
        cases mapped : lineMapOf document with
        | ok map =>
          rw [mapped] at fails
          cases fails
        | error e =>
          rw [mapped] at fails
          cases fails
          rfl
    · rintro (⟨text, deep⟩ | ⟨text, read, breaks⟩)
      · exact ⟨.inr ⟨_, text, .inl ⟨_, deep, rfl⟩⟩, rfl⟩
      · obtain ⟨fails, unreported⟩ := lineMapOf_unreported_iff.2 breaks
        exact ⟨.inr ⟨_, text, .inr ⟨_, read, by rw [fails]; rfl⟩⟩, unreported⟩

end CommandLine

end PagePress
