import BrokenLinks.Command.Arguments
import Mathlib.Tactic.Common

/-! Switches among the arguments.

Wherever a switch stands among arguments that are read to the end, it is on afterwards: it is no
value of a setting, and nothing that is read later turns it off. -/

set_option autoImplicit false

namespace BrokenLinks.Command

/-- A switch that asks for a message is off wherever there are options. -/
def Options.isOn (options : Options) : Switch → Bool
  | .verbose => options.verbosity > 0
  | .dryRun => options.dryRun
  | .check => options.check
  | .parallel => options.parallel
  | .quiet => options.quiet
  | .help | .version => false

theorem bind_eq_ok_iff {ε α β : Type} {first : Except ε α} {next : α → Except ε β} {value : β} :
    first >>= next = .ok value ↔ ∃ between, first = .ok between ∧ next between = .ok value := by
  cases first <;> simp [bind, Except.bind]

namespace Reading

variable {reading reading' : Reading} {options options' : Options} {setting : Setting}

theorem options_give {argument : Argument} (given : reading.give argument = .ok reading') :
    reading'.options = reading.options := by
  unfold give at given
  split at given
  · contradiction
  · cases given
    rfl

theorem isOn_set {value : Bytes} (given : set setting options value = .ok options')
    (switch : Switch) : options'.isOn switch = options.isOn switch := by
  cases setting with
  | root =>
    simp only [set, setRoot] at given
    split at given
    · contradiction
    · cases given
      rfl
  | interval =>
    simp only [set, setInterval] at given
    repeat' split at given
    all_goals
      cases given
    rfl
  | format =>
    simp only [set, setFormat] at given
    split at given <;> cases given <;> rfl

theorem isOn_assign {value : Option Bytes} (read : reading.assign setting value = .ok reading')
    (switch : Switch) : reading'.options.isOn switch = reading.options.isOn switch := by
  cases value with
  | none => contradiction
  | some value =>
    simp only [assign, bind_eq_ok_iff] at read
    obtain ⟨noted, given, options', assigned, ⟨⟩⟩ := read
    rw [isOn_set assigned, options_give given]

theorem isOn_settle (read : reading.settle = .ok reading') (switch : Switch) :
    reading'.options.isOn switch = reading.options.isOn switch := by
  unfold settle at read
  split at read
  · cases read
    rfl
  · exact isOn_assign read switch

theorem isOn_await (read : reading.await setting = .ok reading') (switch : Switch) :
    reading'.options.isOn switch = reading.options.isOn switch := by
  simp only [await, bind_eq_ok_iff] at read
  obtain ⟨settled, settles, ⟨⟩⟩ := read
  exact isOn_settle settles switch

theorem isOn_attach {value : Bytes} (read : reading.attach setting value = .ok reading')
    (switch : Switch) : reading'.options.isOn switch = reading.options.isOn switch := by
  simp only [attach, bind_eq_ok_iff] at read
  obtain ⟨settled, settles, assigned⟩ := read
  rw [isOn_assign assigned, isOn_settle settles]

theorem isOn_turnOn {full : Bool} {turned : Switch}
    (read : reading.turnOn full turned = .ok reading') (switch : Switch) :
    reading'.options.isOn switch = (reading.options.isOn switch || switch = turned) := by
  simp only [turnOn, bind_eq_ok_iff] at read
  obtain ⟨settled, settles, turns⟩ := read
  rw [← isOn_settle settles]
  cases turned with
  | help => contradiction
  | version => contradiction
  | verbose =>
    cases turns
    cases switch <;> simp [Options.isOn]
  | dryRun | check | parallel | quiet =>
    simp only [bind_eq_ok_iff] at turns
    obtain ⟨noted, given, ⟨⟩⟩ := turns
    cases switch <;> simp [Options.isOn, options_give given]

theorem readNamed_name (reading : Reading) (switch : Switch) :
    reading.readNamed (Bytes.ofString switch.name) = reading.turnOn true switch := by
  have named : Argument.ofName? (Bytes.lossy
      ((Bytes.ofString switch.name).takeWhile (· != equals))) = some (.switch switch) := by
    cases switch <;> decide +kernel
  have alone : (Bytes.ofString switch.name).dropWhile (· != equals) = [] := by
    cases switch <;> decide +kernel
  simp only [readNamed, named, alone]

variable {switch : Switch}

theorem isOn_readNamed {text : Bytes} (read : reading.readNamed text = .ok reading')
    (on : reading.options.isOn switch = true) : reading'.options.isOn switch = true := by
  simp only [readNamed] at read
  split at read
  · contradiction
  · rwa [isOn_await read]
  · rwa [isOn_attach read]
  · rw [isOn_turnOn read, on, Bool.true_or]
  · contradiction

theorem isOn_readLetters {invalid : Bytes} {letters : List Char}
    (read : reading.readLetters invalid letters = .ok reading')
    (on : reading.options.isOn switch = true) : reading'.options.isOn switch = true := by
  induction letters generalizing reading with
  | nil =>
    simp only [readLetters] at read
    split at read
    · cases read
      exact on
    · contradiction
  | cons letter letters ih =>
    simp only [readLetters] at read
    split at read
    · contradiction
    · obtain ⟨turned, turns, others⟩ := bind_eq_ok_iff.1 read
      exact ih others (by rw [isOn_turnOn turns, on, Bool.true_or])
    · split at read
      · rwa [isOn_await read]
      · rwa [isOn_attach read]

theorem options_readValue {argument : Bytes} (read : reading.readValue argument = .ok reading') :
    reading'.options = reading.options := by
  unfold readValue at read
  split at read
  · cases read
    rfl
  · contradiction

/-- Each argument leaves on what is on, and the switch turns itself on. After two dashes alone no
argument is read at all. -/
theorem isOn_readAll {arguments : List Bytes}
    (read : reading.readAll arguments = .ok reading')
    (given : reading.options.isOn switch = true ∨
      Bytes.ofString ("--" ++ switch.name) ∈ arguments) :
    reading'.options.isOn switch = true := by
  have dashed : Bytes.ofString ("--" ++ switch.name) =
      dash :: dash :: Bytes.ofString switch.name := by
    cases switch <;> decide +kernel
  have named : Bytes.ofString switch.name ≠ [] := by
    cases switch <;> decide +kernel
  rw [dashed] at given
  fun_induction readAll reading arguments with
  | case1 reading =>
    rw [isOn_settle read]
    exact given.resolve_right List.not_mem_nil
  | case2 reading =>
    rw [isOn_settle read]
    refine given.resolve_right fun member => named ?_
    exact (List.cons.inj (List.cons.inj (List.mem_singleton.1 member)).2).2
  | case3 => contradiction
  | case4 reading arguments text _ ih =>
    obtain ⟨between, first, others⟩ := bind_eq_ok_iff.1 read
    refine ih between others ?_
    rcases given with on | member
    · exact .inl (isOn_readNamed first on)
    · refine (List.mem_cons.1 member).imp_left fun same => ?_
      obtain rfl : Bytes.ofString switch.name = text := (List.cons.inj (List.cons.inj same).2).2
      rw [readNamed_name] at first
      simp [isOn_turnOn first]
  | case5 reading arguments next text _ single letters invalid _ ih =>
    obtain ⟨between, first, others⟩ := bind_eq_ok_iff.1 read
    refine ih between others (given.imp (isOn_readLetters first) fun member => ?_)
    refine (List.mem_cons.1 member).resolve_left fun same => single ?_
    exact (List.cons.inj (List.cons.inj same).2).1.symm
  | case6 reading arguments value _ undashed _ ih =>
    obtain ⟨between, first, others⟩ := bind_eq_ok_iff.1 read
    refine ih between others (given.imp (fun on => ?_) fun member => ?_)
    · rwa [options_readValue first]
    · exact (List.mem_cons.1 member).resolve_left fun same => undashed _ same.symm

end Reading

theorem Options.isOn_of_mem {arguments : List Bytes} {options : Options} {switch : Switch}
    (read : ofArguments arguments = .ok options)
    (given : Bytes.ofString ("--" ++ switch.name) ∈ arguments) : options.isOn switch = true := by
  obtain ⟨reading, all, finished⟩ := bind_eq_ok_iff.1 read
  have same : reading.options = options := by
    unfold Reading.finish at finished
    simp only at finished
    split at finished
    · contradiction
    · cases finished
      rfl
  exact same ▸ Reading.isOn_readAll all (.inr given)

end BrokenLinks.Command
