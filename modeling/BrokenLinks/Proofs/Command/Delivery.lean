import BrokenLinks.Command.Printer
import Mathlib.Data.List.Basic

/-! What a printer hands to a sink that takes its bytes in parts and may fail at any of them.

The calls of the sink are noted with their answers, and the notes change nothing about the calls. A
printer keeps to what is handed over after each line: all the lines so far, or what was taken of
them before the first failure, which ends the calls. -/

set_option autoImplicit false

namespace BrokenLinks.Command

variable {σ : Type}

def OutputError.of? {α : Type} : Except OutputError α → Option OutputError
  | .error error => some error
  | .ok _ => none

inductive SinkCall where
  | write (first : UInt8) (rest : Bytes) (answer : Except OutputError Nat)
  | flush (answer : Except OutputError Unit)

namespace SinkCall

def isWrite : SinkCall → Bool
  | write _ _ _ => true
  | flush _ => false

def error? : SinkCall → Option OutputError
  | write _ _ answer => OutputError.of? answer
  | flush answer => OutputError.of? answer

def accepted : SinkCall → Bytes
  | write first rest (.ok more) => first :: rest.take more
  | write _ _ (.error _) | flush _ => []

end SinkCall

def Sink.noting (sink : Sink σ) : Sink (σ × List SinkCall) where
  write state first rest :=
    let (answer, output) := sink.write state.1 first rest
    (answer, output, state.2 ++ [.write first rest answer])
  flush state :=
    let (answer, output) := sink.flush state.1
    (answer, output, state.2 ++ [.flush answer])

/-! ### Deliveries -/

/-- The calls by which the bytes are handed over, or as many of them as are taken before the first
failure. -/
structure Delivery (bytes : Bytes) (error? : Option OutputError) (calls : List SinkCall) :
    Prop where
  writes : ∀ call ∈ calls, call.isWrite
  first : calls.findSome? SinkCall.error? = error?
  last : ∀ call ∈ calls.dropLast, call.error? = none
  started : calls.flatMap SinkCall.accepted <+: bytes
  whole : error? = none → calls.flatMap SinkCall.accepted = bytes

namespace Delivery

variable {bytes bytes' : Bytes} {error? : Option OutputError} {calls calls' : List SinkCall}

theorem nil : Delivery [] none [] where
  writes := by simp
  first := rfl
  last := by simp
  started := List.prefix_rfl
  whole _ := rfl

theorem taken (first : UInt8) (rest : Bytes) (more : Nat) :
    Delivery (first :: rest.take more) none [.write first rest (.ok more)] where
  writes := by simp [SinkCall.isWrite]
  first := rfl
  last := by simp
  started := by simp [SinkCall.accepted]
  whole _ := by simp [SinkCall.accepted]

theorem refused (first : UInt8) (rest : Bytes) (error : OutputError) :
    Delivery (first :: rest) (some error) [.write first rest (.error error)] where
  writes := by simp [SinkCall.isWrite]
  first := rfl
  last := by simp
  started := List.nil_prefix
  whole := by simp

theorem append (front : Delivery bytes none calls) (back : Delivery bytes' error? calls') :
    Delivery (bytes ++ bytes') error? (calls ++ calls') where
  writes := by
    rintro call member
    exact (List.mem_append.1 member).elim (front.writes call) (back.writes call)
  first := by rw [List.findSome?_append, front.first, back.first, Option.none_or]
  last := by
    -- None of the calls in front fails, so only the last of the others may.
    have taken := List.findSome?_eq_none_iff.1 front.first
    rintro call member
    by_cases empty : calls' = []
    · rw [empty, List.append_nil] at member
      exact front.last call member
    · rw [List.dropLast_append_of_ne_nil empty] at member
      exact (List.mem_append.1 member).elim (taken call) (back.last call)
  started := by
    rw [List.flatMap_append, front.whole rfl, List.prefix_append_right_inj]
    exact back.started
  whole none := by rw [List.flatMap_append, front.whole rfl, back.whole none]

theorem stopped {error : OutputError} (delivery : Delivery bytes (some error) calls)
    (bytes' : Bytes) : Delivery (bytes ++ bytes') (some error) calls :=
  { delivery with
    started := delivery.started.trans (List.prefix_append bytes bytes')
    whole := by simp }

end Delivery

theorem Sink.writeAll_noting (sink : Sink σ) (state : σ) (bytes : Bytes) (before : List SinkCall) :
    ∃ calls, sink.noting.writeAll (state, before) bytes =
        ((sink.writeAll state bytes).1, (sink.writeAll state bytes).2, before ++ calls) ∧
      Delivery bytes (OutputError.of? (sink.writeAll state bytes).1) calls := by
  -- By the calls made, whatever was noted before them.
  fun_induction sink.writeAll state bytes generalizing before with
  | case1 state => exact ⟨[], by simp [writeAll], .nil⟩
  | case2 state first rest error output written =>
    refine ⟨_, ?_, .refused first rest error⟩
    rw [writeAll]
    simp [noting, written]
  | case3 state first rest more output written ih =>
    obtain ⟨calls, later, delivery⟩ := ih (before ++ [.write first rest (.ok more)])
    refine ⟨.write first rest (.ok more) :: calls, ?_, ?_⟩
    · rw [writeAll]
      simp only [noting, written]
      rw [← noting, later]
      simp
    · have all := (Delivery.taken first rest more).append delivery
      rwa [List.cons_append, List.take_append_drop] at all

/-! ### Lines -/

def lineBytes (texts : List String) : Bytes :=
  texts.flatMap fun text => Bytes.ofString (text ++ "\n")

theorem lineBytes_append (first second : List String) :
    lineBytes (first ++ second) = lineBytes first ++ lineBytes second :=
  List.flatMap_append

theorem lineBytes_singleton (text : String) : lineBytes [text] = Bytes.ofString (text ++ "\n") :=
  List.append_nil _

def Style.story (style : Style) (notices : List Notice) (report : RunReport) : List String :=
  notices.flatMap style.lines ++ style.summary report

theorem Sink.writeText_collecting (output : Array UInt8) (text : String) :
    collecting.writeText output text = (.ok (), output ++ Bytes.ofString text) := by
  unfold writeText
  cases Bytes.ofString text with
  | nil => simp [writeAll]
  | cons first rest =>
    rw [writeAll]
    simp [collecting, writeAll]

namespace Printer

def close (sink : Sink σ) (printer : Printer σ) : Except OutputError Unit × σ :=
  match printer.error? with
  | some error => (.error error, printer.output)
  | none => sink.flush printer.output

def present (sink : Sink σ) (style : Style) (output : σ) (notices : List Notice)
    (report : RunReport) : Except OutputError Unit × σ :=
  (Printer.notices sink style ⟨output, none⟩ notices).finish sink style report

theorem present_eq_close (sink : Sink σ) (style : Style) (output : σ) (notices : List Notice)
    (report : RunReport) :
    present sink style output notices report =
      (print sink ⟨output, none⟩ (style.story notices report)).close sink := by
  rw [print, Style.story, List.foldl_append, List.foldl_flatMap]
  rfl

theorem print_collecting (output : Array UInt8) (texts : List String) :
    print .collecting ⟨output, none⟩ texts = ⟨output ++ lineBytes texts, none⟩ := by
  induction texts generalizing output with
  | nil => simp [print, lineBytes]
  | cons text texts ih =>
    have first : line .collecting ⟨output, none⟩ text = ⟨output ++ lineBytes [text], none⟩ := by
      simp [line, Sink.writeText_collecting, lineBytes_singleton]
    rw [print, List.foldl_cons, first, ← print, ih]
    congr 1
    apply Array.toList_inj.1
    simp [lineBytes]

variable {noted : Printer (σ × List SinkCall)} {plain : Printer σ} {bytes : Bytes}

/-- The printer whose sink is noted is where the plain one is, and the notes are those of the
delivery of the bytes. -/
structure Keeps (noted : Printer (σ × List SinkCall)) (plain : Printer σ) (bytes : Bytes) :
    Prop where
  output : noted.output.1 = plain.output
  error : noted.error? = plain.error?
  delivery : Delivery bytes plain.error? noted.output.2

theorem Keeps.line (keeps : noted.Keeps plain bytes) (sink : Sink σ) (text : String) :
    (noted.line sink.noting text).Keeps (plain.line sink text) (bytes ++ lineBytes [text]) := by
  obtain ⟨⟨output, before⟩, error?⟩ := noted
  obtain ⟨output', error?'⟩ := plain
  obtain ⟨rfl, rfl, delivery⟩ := keeps
  cases error? with
  | some error => exact ⟨rfl, rfl, delivery.stopped _⟩
  | none =>
    obtain ⟨calls, written, later⟩ := sink.writeAll_noting output (lineBytes [text]) before
    have all := delivery.append later
    simp only [Printer.line, Sink.writeText, ← lineBytes_singleton, written]
    rcases answered : sink.writeAll output (lineBytes [text]) with ⟨error | ⟨⟩, state⟩ <;>
      rw [answered] at all <;> exact ⟨rfl, rfl, all⟩

theorem Keeps.print (keeps : noted.Keeps plain bytes) (sink : Sink σ) (texts : List String) :
    (noted.print sink.noting texts).Keeps (plain.print sink texts) (bytes ++ lineBytes texts) := by
  induction texts generalizing noted plain bytes with
  | nil => simpa [lineBytes, Printer.print] using keeps
  | cons text texts ih =>
    have rest := ih (keeps.line sink text)
    rwa [List.append_assoc, ← lineBytes_append] at rest

/-- The result after all lines, and what is then still asked of the sink: nothing after a failure,
or else to flush. -/
inductive Ending : Option OutputError → Except OutputError Unit → List SinkCall → Prop
  | failed (error : OutputError) : Ending (some error) (.error error) []
  | flushed (answer : Except OutputError Unit) : Ending none answer [.flush answer]

section Ending

variable {error? : Option OutputError} {result : Except OutputError Unit}
  {calls ending : List SinkCall}

theorem Ending.no_write (ended : Ending error? result ending) :
    ending.filter SinkCall.isWrite = [] ∧ ending.flatMap SinkCall.accepted = [] := by
  cases ended <;> exact ⟨rfl, rfl⟩

theorem Ending.last (ended : Ending error? result ending) (delivery : Delivery bytes error? calls) :
    ∀ call ∈ (calls ++ ending).dropLast, call.error? = none := by
  cases ended with
  | failed error => simpa using delivery.last
  | flushed => simpa using List.findSome?_eq_none_iff.1 delivery.first

theorem Ending.ok_iff (ended : Ending error? result ending)
    (delivery : Delivery bytes error? calls) :
    result = .ok () ↔ (∀ call ∈ calls ++ ending, call.isWrite → call.error? = none) ∧
      (calls ++ ending).getLast? = some (.flush (.ok ())) := by
  cases ended with
  | failed error =>
    -- There is no flush to be taken for the end, and the call that failed is a write.
    obtain ⟨call, member, failure⟩ := List.exists_of_findSome?_eq_some delivery.first
    have written := delivery.writes call member
    simp only [List.append_nil, reduceCtorEq, false_iff, not_and]
    intro none
    simp [none call member written] at failure
  | flushed =>
    have none := List.findSome?_eq_none_iff.1 delivery.first
    simp only [List.getLast?_append, List.getLast?_singleton, Option.some_or, Option.some.injEq,
      SinkCall.flush.injEq, iff_and_self, List.mem_append, List.mem_singleton]
    rintro - call (member | rfl) written
    · exact none call member
    · cases written

theorem Ending.whole (ended : Ending error? result ending) (delivery : Delivery bytes error? calls)
    (done : result = .ok ()) : calls.flatMap SinkCall.accepted = bytes := by
  cases ended with
  | failed error => cases done
  | flushed => exact delivery.whole rfl

theorem Ending.first (ended : Ending error? result ending) (delivery : Delivery bytes error? calls)
    (error : OutputError) (failed : calls.findSome? SinkCall.error? = some error) :
    result = .error error := by
  rw [delivery.first] at failed
  subst failed
  cases ended
  rfl

end Ending

theorem Keeps.close (keeps : noted.Keeps plain bytes) (sink : Sink σ) :
    ∃ calls ending, Delivery bytes plain.error? calls ∧
      Ending plain.error? (plain.close sink).1 ending ∧
      noted.close sink.noting =
        ((plain.close sink).1, (plain.close sink).2, calls ++ ending) := by
  obtain ⟨⟨output, calls⟩, error?⟩ := noted
  obtain ⟨output', error?'⟩ := plain
  obtain ⟨rfl, rfl, delivery⟩ := keeps
  cases error? with
  | some error => exact ⟨calls, [], delivery, .failed error, by simp [Printer.close]⟩
  | none => exact ⟨calls, _, delivery, .flushed _, rfl⟩

theorem present_collecting (style : Style) (notices : List Notice) (report : RunReport) :
    (present .collecting style #[] notices report).2.toList =
      lineBytes (style.story notices report) := by
  rw [present_eq_close, print_collecting]
  simp [Printer.close, Sink.collecting]

/-- However a sink takes the lines of a run and wherever it fails: after a failure nothing is asked
of it any more, it has taken a start of all the lines, which are what a sink that never fails takes,
and the result is the first failure. Without one all is taken, and the result is that of the
flush. -/
theorem present_up_to_first_failure (sink : Sink σ) (style : Style) (output : σ)
    (notices : List Notice) (report : RunReport) :
    let presented := present sink style output notices report
    let noted := present sink.noting style (output, []) notices report
    let calls := noted.2.2
    let taken := calls.flatMap SinkCall.accepted
    let whole := (present .collecting style #[] notices report).2.toList
    (noted.1, noted.2.1) = presented ∧
      whole = lineBytes (style.story notices report) ∧
      (∀ before call after, calls = before ++ call :: after → call.error?.isSome → after = []) ∧
      taken <+: whole ∧
      (presented.1 = .ok () ↔ (∀ call ∈ calls, call.isWrite → call.error? = none) ∧
        calls.getLast? = some (.flush (.ok ()))) ∧
      (presented.1 = .ok () → taken = whole) ∧
      ∀ error, (calls.filter SinkCall.isWrite).findSome? SinkCall.error? = some error →
        presented.1 = .error error := by
  intro presented noted calls taken whole
  have start : Keeps (σ := σ) ⟨(output, []), none⟩ ⟨output, none⟩ [] := ⟨rfl, rfl, .nil⟩
  obtain ⟨handed, ending, delivery, ended, closed⟩ :=
    (start.print sink (style.story notices report)).close sink
  rw [← present_eq_close, ← present_eq_close] at closed
  rw [← present_eq_close] at ended
  have calls_eq : calls = handed ++ ending := congrArg (·.2.2) closed
  have whole_eq : whole = lineBytes (style.story notices report) :=
    present_collecting style notices report
  have writes : calls.filter SinkCall.isWrite = handed := by
    rw [calls_eq, List.filter_append, List.filter_eq_self.2 delivery.writes, ended.no_write.1,
      List.append_nil]
  have taken_eq : taken = handed.flatMap SinkCall.accepted := by
    rw [show taken = calls.flatMap SinkCall.accepted from rfl, calls_eq, List.flatMap_append,
      ended.no_write.2, List.append_nil]
  rw [writes, taken_eq, whole_eq]
  refine ⟨congrArg (fun closed => (closed.1, closed.2.1)) closed, rfl, ?_, delivery.started, ?_, ?_⟩
  · intro before call after split fails
    -- Were there more calls, this one would not be the last, and only that may fail.
    by_contra more
    have member : call ∈ calls.dropLast := by
      rw [split, List.dropLast_append_of_ne_nil (by simp), List.dropLast_cons_of_ne_nil more]
      simp
    rw [ended.last delivery call (calls_eq ▸ member)] at fails
    cases fails
  · rw [calls_eq]
    exact ended.ok_iff delivery
  · exact ⟨ended.whole delivery, ended.first delivery⟩

def limited : Sink Nat where
  write
    | 0, _, _ => (.error ⟨"closed"⟩, 0)
    | left + 1, _, _ => (.ok 1, left)
  flush left := (.ok (), left)

theorem present_up_to_first_failure_half_written :
    let style : Style := ⟨false, true, false⟩
    let path : Path := ⟨.ofString "docs"⟩
    let notices := [Notice.started path 2, .checkpoint path 1]
    let report := RunReport.new path true
    let calls := (present limited.noting style (20, []) notices report).2.2
    calls.flatMap SinkCall.accepted =
        Bytes.ofString "Processing subdirectory: docs\nFound 2 ma" ∧
      (calls.filter SinkCall.isWrite).findSome? SinkCall.error? = some ⟨"closed"⟩ ∧
      (present limited style 20 notices report).1 = .error ⟨"closed"⟩ := by
  intro style path notices report calls
  have taken : calls.flatMap SinkCall.accepted =
      Bytes.ofString "Processing subdirectory: docs\nFound 2 ma" := by decide +kernel
  have failed : (calls.filter SinkCall.isWrite).findSome? SinkCall.error? = some ⟨"closed"⟩ := by
    decide +kernel
  obtain ⟨-, -, -, -, -, -, first⟩ :=
    present_up_to_first_failure limited style 20 notices report
  exact ⟨taken, failed, first _ failed⟩

end Printer

end BrokenLinks.Command
