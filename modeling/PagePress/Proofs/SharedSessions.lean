import PagePress.Proofs.PageTask.Compilation
import PagePress.Text.Encoding.Standard

/-!
Compilers that share a store, a disk and a table of locations. However their operations are
interleaved, a compilation of a page comes out as it would for a compiler that only ever opened one
sink, on a workspace where no location was ever set: what counts is the text of the last sink, the
settings of the compiler, the disk, the store and the clock.
-/

set_option autoImplicit false

namespace PagePress

namespace PageCompiler

private theorem compile_last_sink [Text.Encodings] (c : PageCompiler) (s : Service) (name : String)
    (guide : Option LineGuide) (w : Workspace) :
    ({ c with sinks := c.sinks.getLast?.toList } : PageCompiler).compile s name guide w =
      c.compile s name guide w := by
  have last : c.sinks.getLast?.toList.getLast? = c.sinks.getLast? := by
    cases c.sinks.getLast? <;> rfl
  simp only [compile, prepare, last]
  rfl

private theorem compile_congr [Text.Encodings] (c : PageCompiler) (fe : FrontEnd) (name : String)
    (guide : Option LineGuide) {v w : Workspace} (disk : v.disk = w.disk)
    (store : v.store = w.store) (clock : v.clock = w.clock) :
    (c.compile (PageTask.service fe) name guide v).1 =
        (c.compile (PageTask.service fe) name guide w).1 ∧
      (c.compile (PageTask.service fe) name guide v).2.store =
        (c.compile (PageTask.service fe) name guide w).2.store := by
  cases commissioned : c.commission fe w.disk name with
  | error failure =>
    obtain ⟨answer, kept⟩ := compile_refused c fe guide w commissioned
    obtain ⟨other, unchanged⟩ := compile_refused c fe guide v (disk ▸ commissioned)
    exact ⟨other.trans answer.symm, by rw [unchanged, kept, store]⟩
  | ok pair =>
    obtain ⟨u, s⟩ := pair
    obtain ⟨-, -, bytes, encoded⟩ := commission_ok commissioned
    have here := compile_settled_of_encoded c fe guide w commissioned encoded
    have there := compile_settled_of_encoded c fe guide v (disk ▸ commissioned) encoded
    rw [show c.catalog v = c.catalog w by rw [catalog, catalog, disk, store]] at there
    cases ending : (PageTask.outcome fe s u (c.catalog w)).ending with
    | error failure =>
      obtain ⟨answer, kept⟩ := here.broken failure ending
      obtain ⟨other, unchanged⟩ := there.broken failure ending
      exact ⟨other.trans answer.symm, by rw [unchanged, kept, store]⟩
    | ok good =>
      cases good with
      | false =>
        obtain ⟨kept, answer⟩ := here.failed ending
        obtain ⟨unchanged, other⟩ := there.failed ending
        exact ⟨other.trans answer.symm, by rw [unchanged, kept, store]⟩
      | true =>
        obtain ⟨answer, stored⟩ := here.published ending
        obtain ⟨other, again⟩ := there.published ending
        exact ⟨other.trans answer.symm, by rw [again, stored, store, clock]⟩

end PageCompiler

inductive Call
  | setClasspath (paths : List String)
  | mapOptions (change : CompilerOptions → CompilerOptions)
  | addOption (words : List Datum)
  | configure (config : Configuration)
  | openSink (encoding : String)
  | write (position : Nat) (text : String)

namespace Call

/-- A compiler after a call; an option that is refused changes nothing. -/
def apply (c : PageCompiler) : Call → PageCompiler
  | .setClasspath paths => c.setClasspath paths
  | .mapOptions change => c.mapOptions change
  | .addOption words =>
    match c.addOption words with
    | .ok c => c
    | .error _ => c
  | .configure config => c.configure config
  | .openSink encoding => c.openSink encoding
  | .write position text => c.writeTo position text

def opens? : Call → Option String
  | .openSink encoding => some encoding
  | _ => none

/-- The text that a call writes to the sink at a position. -/
def textFor? (position : Nat) : Call → Option String
  | .write spot text => if spot = position then some text else none
  | _ => none

def written (position : Nat) (calls : List Call) : String :=
  String.join (calls.filterMap (textFor? position))

/-- The sink that calls open last, with what they write to it from then on; `opened` sinks were
there before. -/
def lastSink : Nat → List Call → Option Sink
  | _, [] => none
  | opened, call :: later =>
    match call.opens? with
    | some encoding => (lastSink (opened + 1) later).or (some ⟨written opened later, encoding⟩)
    | none => lastSink opened later

private theorem written_cons (position : Nat) (call : Call) (later : List Call) :
    written position (call :: later) =
      (call.textFor? position).getD "" ++ written position later := by
  unfold written
  cases text : call.textFor? position with
  | none => rw [List.filterMap_cons_none text, Option.getD_none, String.empty_append]
  | some words => rw [List.filterMap_cons_some text, String.join_cons, Option.getD_some]

private theorem sinks_of_opens {call : Call} {encoding : String}
    (opens : call.opens? = some encoding)
    (c : PageCompiler) : (call.apply c).sinks = c.sinks ++ [⟨"", encoding⟩] := by
  cases call with
  | openSink other =>
    cases opens
    rfl
  | _ => cases opens

private theorem sinks_addOption (c : PageCompiler) (words : List Datum) :
    ((Call.addOption words).apply c).sinks = c.sinks := by
  cases words with
  | nil => rfl
  | cons flag args =>
    simp only [apply, PageCompiler.addOption]
    cases c.options.add flag (args.map Datum.plainText) <;> rfl

private theorem getLast?_modify (sinks : List Sink) (position : Nat) (f : Sink → Sink) :
    (sinks.modify position f).getLast? =
      sinks.getLast?.map fun sink => if position = sinks.length - 1 then f sink else sink := by
  rw [List.getLast?_eq_getElem?, List.getLast?_eq_getElem?, List.getElem?_modify,
    List.length_modify]
  rfl

/-- A call that opens no sink leaves their number, and adds to the last one what it writes to it. -/
private theorem sinks_of_not_opens {call : Call} (unopened : call.opens? = none)
    (c : PageCompiler) :
    (call.apply c).sinks.length = c.sinks.length ∧
      (call.apply c).sinks.getLast? = c.sinks.getLast?.map fun sink =>
        { sink with text := sink.text ++ (call.textFor? (c.sinks.length - 1)).getD "" } := by
  cases call with
  | openSink encoding => cases unopened
  | write position text =>
    simp only [apply, PageCompiler.writeTo, textFor?, List.length_modify, getLast?_modify, true_and]
    congr 1
    funext sink
    by_cases last : position = c.sinks.length - 1 <;> simp [last]
  | addOption words => simp [sinks_addOption, textFor?]
  | configure config =>
    obtain ⟨classpath, -, -, -, -⟩ := config
    cases classpath <;>
      simp [apply, textFor?, PageCompiler.configure, PageCompiler.mapOptions,
        PageCompiler.setClasspath]
  | setClasspath paths => simp [apply, textFor?, PageCompiler.setClasspath]
  | mapOptions change => simp [apply, textFor?, PageCompiler.mapOptions]

/-- The last sink after calls: the last that they open, or the one that was there, with what they
write to it. -/
private theorem getLast?_sinks_foldl (calls : List Call) (c : PageCompiler) :
    (calls.foldl Call.apply c).sinks.getLast? =
      (lastSink c.sinks.length calls).or (c.sinks.getLast?.map fun sink =>
        { sink with text := sink.text ++ written (c.sinks.length - 1) calls }) := by
  induction calls generalizing c with
  | nil => cases last : c.sinks.getLast? <;> simp [lastSink, written, last]
  | cons call later ih =>
    rw [List.foldl_cons, ih]
    cases opens : call.opens? with
    | some encoding =>
      rw [sinks_of_opens opens c]
      simp [lastSink, opens]
    | none =>
      obtain ⟨length, last⟩ := sinks_of_not_opens opens c
      rw [length, last, Option.map_map]
      simp only [lastSink, opens, written_cons, Function.comp_def, String.append_assoc]

end Call

structure Workshop where
  compilers : List PageCompiler
  workspace : Workspace

namespace Workshop

/-- What can happen in a workshop. Compilers are known by their positions, and a compilation may use
any service; from outside anything may happen to the workspace. -/
inductive Operation
  | instruct (owner : Nat) (call : Call)
  | compile (owner : Nat) (service : Service) (name : String) (guide : Option LineGuide)
  | outside (change : Workspace → Workspace)

def step [Text.Encodings] (shop : Workshop) : Operation → Workshop
  | .instruct owner call => { shop with compilers := shop.compilers.modify owner call.apply }
  | .compile owner service name guide =>
    match shop.compilers[owner]? with
    | none => shop
    | some c => { shop with workspace := (c.compile service name guide shop.workspace).2 }
  | .outside change => { shop with workspace := change shop.workspace }

def run [Text.Encodings] (shop : Workshop) (history : List Operation) :
    Workshop := history.foldl step shop

def newcomer (reserved : String) (includeNotes : Bool) : PageCompiler :=
  ⟨reserved, includeNotes, [], .empty, []⟩

def start (team : List (String × Bool)) (w : Workspace) : Workshop :=
  ⟨team.map fun (reserved, includeNotes) => newcomer reserved includeNotes, w⟩

/-- The call of an operation, if it is one of the compiler at a position. -/
def Operation.callOf? (who : Nat) : Operation → Option Call
  | .instruct owner call => if owner = who then some call else none
  | _ => none

def callsOf (who : Nat) (history : List Operation) : List Call :=
  history.filterMap (Operation.callOf? who)

structure Circumstances where
  sink : Option Sink
  reserved : String
  includeNotes : Bool
  classpath : List Path
  options : CompilerOptions
  disk : Disk
  store : Store
  clock : Clock

/-- A compilation under circumstances, by a compiler with at most one sink and over locations that
nobody set: its result and the store it leaves. -/
def Circumstances.compile [Text.Encodings] (k : Circumstances) (fe : FrontEnd) (name : String)
    (guide : Option LineGuide) : Except Failure CompilationResult × Store :=
  let c : PageCompiler := ⟨k.reserved, k.includeNotes, k.classpath, k.options, k.sink.toList⟩
  let (answer, w) :=
    c.compile (PageTask.service fe) name guide
      { Workspace.start k.disk k.store with clock := k.clock }
  (answer, w.store)

private theorem compilers_step [Text.Encodings] (shop : Workshop) (operation : Operation)
    (who : Nat) :
    (shop.step operation).compilers[who]? =
      shop.compilers[who]?.map ((operation.callOf? who).toList.foldl Call.apply) := by
  cases operation with
  | instruct owner call =>
    simp only [step, List.getElem?_modify, Operation.callOf?]
    by_cases same : owner = who <;> simp [same]
  | compile owner service name guide =>
    simp only [step, Operation.callOf?]
    cases shop.compilers[owner]? <;> simp
  | outside change => simp [step, Operation.callOf?]

private theorem compilers_run [Text.Encodings] (shop : Workshop) (history : List Operation)
    (who : Nat) :
    (shop.run history).compilers[who]? =
      shop.compilers[who]?.map ((callsOf who history).foldl Call.apply) := by
  induction history generalizing shop with
  | nil => simp [run, callsOf]
  | cons operation later ih =>
    have calls : callsOf who (operation :: later) =
        (operation.callOf? who).toList ++ callsOf who later := by
      unfold callsOf
      cases call : operation.callOf? who with
      | none => rw [List.filterMap_cons_none call]; rfl
      | some call' => rw [List.filterMap_cons_some call]; rfl
    rw [show shop.run (operation :: later) = (shop.step operation).run later from rfl, ih,
      compilers_step, Option.map_map, calls]
    simp only [List.foldl_append, Function.comp_def]

/-- Whatever happened in a workshop: a compiler is what its own calls make of a newcomer. What its
compilation of a page answers, and the store that this leaves, are those of the text of the sink
that it opened last, with its settings, on the same disk and store and at the same readings of the
clock, over locations that nobody set. -/
theorem compile_depends_on_own_session [Text.Encodings] (team : List (String × Bool))
    (w : Workspace) (history : List Operation) (who : Nat) (c : PageCompiler) (fe : FrontEnd)
    (name : String) (guide : Option LineGuide)
    (present : ((start team w).run history).compilers[who]? = some c) :
    let shared := ((start team w).run history).workspace
    let ran := c.compile (PageTask.service fe) name guide shared
    let calls := callsOf who history
    (∃ reserved includeNotes, team[who]? = some (reserved, includeNotes) ∧
      c = calls.foldl Call.apply (newcomer reserved includeNotes)) ∧
    (ran.1, ran.2.store) = Circumstances.compile ⟨Call.lastSink 0 calls, c.reserved,
      c.includeNotes, c.classpath, c.options, shared.disk, shared.store, shared.clock⟩ fe name
      guide := by
  intro shared ran calls
  rw [compilers_run, Option.map_eq_some_iff] at present
  obtain ⟨first, new, rfl⟩ := present
  simp only [start, List.getElem?_map, Option.map_eq_some_iff] at new
  obtain ⟨⟨reserved, includeNotes⟩, member, rfl⟩ := new
  refine ⟨⟨reserved, includeNotes, member, rfl⟩, ?_⟩
  let c := calls.foldl Call.apply (newcomer reserved includeNotes)
  have last : Call.lastSink 0 calls = c.sinks.getLast? := by
    rw [Call.getLast?_sinks_foldl]
    simp [newcomer]
  let v : Workspace := { Workspace.start shared.disk shared.store with clock := shared.clock }
  obtain ⟨answer, store⟩ : (c.compile (PageTask.service fe) name guide shared).1 =
      (c.compile (PageTask.service fe) name guide v).1 ∧ _ :=
    c.compile_congr fe name guide rfl rfl rfl
  have sink := c.compile_last_sink (PageTask.service fe) name guide v
  rw [← last] at sink
  rw [← sink] at answer store
  exact Prod.ext answer store

/-- Two compilers in turn: the other one leaves paths at two locations, and the first goes on with
its second sink, while its first one is still written to. -/
theorem compile_after_another_session :
    let fe : FrontEnd := ⟨fun _ _ => ⟨[], .done (.importNames ["generated.B"] (some 1))⟩,
      fun _ _ _ => ⟨[], .done ()⟩⟩
    let disk : Disk := ⟨[(["lib"], .directory), (["ext"], .directory)], []⟩
    let history : List Operation := [
      .instruct 0 (.openSink "ascii"), .instruct 0 (.write 0 "draft\n"),
      .instruct 1 (.setClasspath ["lib"]), .instruct 1 (.addOption [.text "-extdirs", .text "ext"]),
      .instruct 1 (.openSink "utf-8"), .instruct 0 (.openSink "utf-8"),
      .instruct 0 (.write 1 "import "), .compile 1 (PageTask.service fe) "other.X" none,
      .instruct 0 (.write 0 "more\n"), .instruct 0 (.write 1 "generated.B\n")]
    let shop := (start [("generated", false), ("other", true)]
      (.start disk ((Store.empty ⟨0, []⟩).put "generated.B" (some [0])).2)).run history
    let shared := shop.workspace
    let c : PageCompiler := ⟨"generated", false, [], .empty,
      [⟨"draft\nmore\n", "ascii"⟩, ⟨"import generated.B\n", "utf-8"⟩]⟩
    let ran := c.compile (PageTask.service fe) "generated.A" none shared
    shop.compilers[0]? = some c ∧
      shared.locations = ⟨[.ofString "lib"], [.ofString "ext"], [], []⟩ ∧
      ran.1 = .ok ⟨"generated.A", true, []⟩ ∧
      (ran.1, ran.2.store) = Circumstances.compile ⟨some ⟨"import generated.B\n", "utf-8"⟩,
        "generated", false, [], .empty, disk, shared.store, shared.clock⟩ fe "generated.A" none := by
  intro fe disk history shop shared c ran
  have present : shop.compilers[0]? = some c := by decide +kernel
  obtain ⟨-, alone⟩ := compile_depends_on_own_session [("generated", false), ("other", true)] _
    history 0 c fe "generated.A" none present
  have sink : Call.lastSink 0 (callsOf 0 history) = some ⟨"import generated.B\n", "utf-8"⟩ := by
    decide +kernel
  have kept : shared.disk = disk := by decide +kernel
  rw [sink, show ((start [("generated", false), ("other", true)] _).run history).workspace.disk =
    disk from kept] at alone
  exact ⟨present, by decide +kernel, PageCompiler.ok_of_toOption (by decide +kernel), alone⟩

end Workshop

end PagePress
