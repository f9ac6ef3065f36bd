/-
Which arguments are a command line, and what it asks for.

Arguments are read in groups, a switch by itself or the option for the alias file with the argument
behind it.  What an argument is depends on its place: behind that option it is the name of a file,
even if it looks like a switch.  A reader that goes on by one or by two therefore never has to look
ahead, and it comes to one of three ends.  All arguments are used up, or the option for the alias
file is the last of them, or an argument comes up that begins no group.

The groups say everything.  The switches do not care in what order they come; of the alias files the
last one counts.
-/
import Adventure.CommandLine
import Mathlib.Data.List.Basic

namespace Adventure

namespace Switch

/-- The spellings of a switch. -/
def spellings : Switch → List String
  | help => ["-h", "--help"]
  | version => ["-V", "--version"]
  | batch => ["-b", "--batch"]
  | verbose => ["-v", "--verbose"]
  | tokens => ["--tokens"]
  | json => ["--json"]

/-- No two switches have a spelling in common. -/
theorem ofArgument?_eq_some_iff {argument : String} {s : Switch} :
    ofArgument? argument = some s ↔ argument ∈ s.spellings := by
  constructor
  · unfold ofArgument?
    split_ifs with h h h h h h
    all_goals simp only [Option.some.injEq, IsEmpty.forall_iff]
    all_goals
      rintro rfl
      simpa [spellings] using h
  · intro h
    cases s with
    | help | version | batch | verbose =>
        obtain rfl | rfl : argument = _ ∨ argument = _ := by simpa [spellings] using h
        · decide
        · decide
    | tokens | json =>
        obtain rfl : argument = _ := by simpa [spellings] using h
        decide

end Switch

/-- The spellings of the option for the alias file. -/
def aliasOptions : List String :=
  ["-a", "--aliases"]

/-- Arguments that are read together. -/
inductive ArgumentGroup where
  | switch (s : Switch) (spelling : String) (h : spelling ∈ s.spellings)
  /-- The file may be called anything. -/
  | aliases (option file : String) (h : option ∈ aliasOptions)

namespace ArgumentGroup

/-- The arguments of a group. -/
def arguments : ArgumentGroup → List String
  | switch _ spelling _ => [spelling]
  | aliases option file _ => [option, file]

/-- The alias file that a group names. -/
def file? : ArgumentGroup → Option String
  | switch .. => none
  | aliases _ file _ => some file

/-- The arguments of a row of groups. -/
def row (groups : List ArgumentGroup) : List String :=
  groups.flatMap arguments

/-- The alias file that is named last. -/
def lastFile? (groups : List ArgumentGroup) : Option String :=
  (groups.filterMap file?).getLast?

/-- Whether an argument can begin a group. -/
def Opens (argument : String) : Prop :=
  (∃ s : Switch, argument ∈ s.spellings) ∨ argument ∈ aliasOptions

end ArgumentGroup

namespace Invocation

/-- Whether a switch is on. -/
def isOn (i : Invocation) : Switch → Bool
  | .help => i.help
  | .version => i.version
  | .batch => i.batch
  | .verbose => i.verbose
  | .tokens => i.tokens
  | .json => i.json

/-- What groups ask for. -/
structure AskedBy (groups : List ArgumentGroup) (i : Invocation) : Prop where
  /-- A switch is on if one of its spellings is a group, and not only the name of a file. -/
  switches : ∀ s, i.isOn s = true ↔ ∃ spelling h, ArgumentGroup.switch s spelling h ∈ groups
  file : i.aliasFile = ArgumentGroup.lastFile? groups

/-! ### Reading one group -/

/-- An invocation with one more group. -/
def add (i : Invocation) : ArgumentGroup → Invocation
  | .switch s _ _ => i.turnOn s
  | .aliases _ file _ => { i with aliasFile := some file }

theorem isAliasOption_iff {argument : String} :
    isAliasOption argument = true ↔ argument ∈ aliasOptions := by
  simp [isAliasOption, aliasOptions]

/-- The option for the alias file is no switch. -/
theorem ofArgument?_aliasOption :
    ∀ option ∈ aliasOptions, Switch.ofArgument? option = none := by
  decide

theorem parseFrom_switch {argument : String} {s : Switch} (h : argument ∈ s.spellings)
    (rest : List String) (i : Invocation) :
    i.parseFrom (argument :: rest) = (i.turnOn s).parseFrom rest := by
  rw [parseFrom.eq_def]
  simp only [Switch.ofArgument?_eq_some_iff.mpr h]

theorem parseFrom_file {option : String} (h : option ∈ aliasOptions) (file : String)
    (rest : List String) (i : Invocation) :
    i.parseFrom (option :: file :: rest) = { i with aliasFile := some file }.parseFrom rest := by
  rw [parseFrom.eq_def]
  simp only [ofArgument?_aliasOption option h, isAliasOption_iff.mpr h, if_true]

theorem parseFrom_bare {option : String} (h : option ∈ aliasOptions) (i : Invocation) :
    i.parseFrom [option] = .error .aliasesWithoutFile := by
  rw [parseFrom.eq_def]
  simp only [ofArgument?_aliasOption option h, isAliasOption_iff.mpr h, if_true]

theorem parseFrom_stray {argument : String} (h : ¬ ArgumentGroup.Opens argument)
    (rest : List String) (i : Invocation) :
    i.parseFrom (argument :: rest) = .error (.unknownOption argument) := by
  obtain ⟨hswitch, halias⟩ := not_or.mp h
  have hnone : Switch.ofArgument? argument = none := by
    rw [Option.eq_none_iff_forall_ne_some]
    exact fun s hs => hswitch ⟨s, Switch.ofArgument?_eq_some_iff.mp hs⟩
  rw [parseFrom.eq_def]
  simp only [hnone, if_neg (mt isAliasOption_iff.mp halias)]

/-- **A row of groups is read group by group**, whatever follows. -/
theorem parseFrom_row (groups : List ArgumentGroup) (rest : List String) :
    ∀ i : Invocation,
      i.parseFrom (ArgumentGroup.row groups ++ rest) = (groups.foldl add i).parseFrom rest := by
  induction groups with
  | nil => intro i; rfl
  | cons g groups ih =>
      intro i
      cases g with
      | switch s spelling h => exact (parseFrom_switch h _ i).trans (ih _)
      | aliases option file h => exact (parseFrom_file h file _ i).trans (ih _)

/-! ### Where the groups end -/

/-- What is left of the arguments when no more groups can be read, and the fault that it is. -/
inductive Left : List String → Option UsageFault → Prop
  | nothing : Left [] none
  | bare {option : String} (h : option ∈ aliasOptions) : Left [option] (some .aliasesWithoutFile)
  | stray {argument : String} (h : ¬ ArgumentGroup.Opens argument) (rest : List String) :
      Left (argument :: rest) (some (.unknownOption argument))

/-- **All arguments are a row of groups and something that is left.** -/
theorem exists_row (arguments : List String) :
    ∃ groups rest fault, arguments = ArgumentGroup.row groups ++ rest ∧ Left rest fault := by
  induction hlength : arguments.length using Nat.strongRecOn generalizing arguments with
  | ind n ih =>
      subst hlength
      cases arguments with
      | nil => exact ⟨[], [], _, rfl, .nothing⟩
      | cons argument rest =>
          by_cases hswitch : ∃ s : Switch, argument ∈ s.spellings
          · obtain ⟨s, hs⟩ := hswitch
            obtain ⟨groups, left, fault, rfl, hleft⟩ := ih _ (by simp) rest rfl
            exact ⟨.switch s argument hs :: groups, left, fault, rfl, hleft⟩
          by_cases halias : argument ∈ aliasOptions
          · cases rest with
            | nil => exact ⟨[], _, _, rfl, .bare halias⟩
            | cons file rest =>
                have hshorter : rest.length < (argument :: file :: rest).length := by
                  simp only [List.length_cons]
                  omega
                obtain ⟨groups, left, fault, rfl, hleft⟩ := ih _ hshorter rest rfl
                exact ⟨.aliases argument file halias :: groups, left, fault, rfl, hleft⟩
          · exact ⟨[], _, _, rfl, .stray (not_or.mpr ⟨hswitch, halias⟩) rest⟩

/-- What is left decides whether the arguments are right. -/
theorem parse_row (groups : List ArgumentGroup) {rest : List String} {fault : Option UsageFault}
    (h : Left rest fault) :
    parse (ArgumentGroup.row groups ++ rest)
      = match fault with
        | none => .ok (groups.foldl add {})
        | some fault => .error fault := by
  rw [parse, parseFrom_row]
  cases h with
  | nothing => rfl
  | bare h => exact parseFrom_bare h _
  | stray h rest => exact parseFrom_stray h rest _

/-! ### What groups come to -/

theorem isOn_add (i : Invocation) (g : ArgumentGroup) (s : Switch) :
    (i.add g).isOn s = true ↔ (∃ spelling h, g = .switch s spelling h) ∨ i.isOn s = true := by
  cases g with
  | aliases option file h =>
      have hsame : (i.add (.aliases option file h)).isOn s = i.isOn s := by cases s <;> rfl
      simp [hsame]
  | switch s' spelling h =>
      by_cases hs : s' = s
      · subst hs
        have hon : (i.add (.switch s' spelling h)).isOn s' = true := by cases s' <;> rfl
        simp [hon, h]
      · have hsame : (i.add (.switch s' spelling h)).isOn s = i.isOn s := by
          cases s' <;> cases s <;> first | rfl | exact absurd rfl hs
        simp [hsame, hs]

theorem isOn_foldl (groups : List ArgumentGroup) (s : Switch) :
    ∀ i : Invocation, (groups.foldl add i).isOn s = true ↔
      (∃ spelling h, ArgumentGroup.switch s spelling h ∈ groups) ∨ i.isOn s = true := by
  induction groups with
  | nil => intro i; simp
  | cons g groups ih =>
      intro i
      rw [List.foldl_cons, ih, isOn_add, ← or_assoc]
      refine or_congr_left ?_
      simp only [List.mem_cons, exists_or, or_comm, eq_comm]

theorem aliasFile_foldl (groups : List ArgumentGroup) :
    ∀ i : Invocation,
      (groups.foldl add i).aliasFile = (ArgumentGroup.lastFile? groups).or i.aliasFile := by
  induction groups with
  | nil => intro i; rfl
  | cons g groups ih =>
      intro i
      rw [List.foldl_cons, ih]
      cases g with
      | switch s spelling h =>
          have hsame : (i.add (.switch s spelling h)).aliasFile = i.aliasFile := by cases s <;> rfl
          rw [hsame]
          rfl
      | aliases option file h =>
          have hlast : ArgumentGroup.lastFile? (.aliases option file h :: groups)
              = (ArgumentGroup.lastFile? groups).or (some file) := by
            show (file :: groups.filterMap ArgumentGroup.file?).getLast? = _
            rw [List.getLast?_cons, ArgumentGroup.lastFile?]
            cases (groups.filterMap ArgumentGroup.file?).getLast? with
            | none => rfl
            | some last => rfl
          rw [hlast, Option.or_assoc]
          rfl

theorem askedBy_foldl (groups : List ArgumentGroup) : AskedBy groups (groups.foldl add {}) where
  switches := by
    intro s
    have hoff : isOn {} s = false := by cases s <;> rfl
    rw [isOn_foldl, hoff, or_iff_left Bool.false_ne_true]
  file := by rw [aliasFile_foldl, Option.or_none]

/-- An invocation is its alias file and its switches. -/
theorem ext_isOn {i i' : Invocation} (hfile : i.aliasFile = i'.aliasFile)
    (hon : ∀ s, i.isOn s = i'.isOn s) : i = i' := by
  obtain ⟨file, help, version, batch, verbose, tokens, json⟩ := i
  obtain ⟨file', help', version', batch', verbose', tokens', json'⟩ := i'
  rw [mk.injEq]
  exact ⟨hfile, hon .help, hon .version, hon .batch, hon .verbose, hon .tokens, hon .json⟩

/-- **Groups in another order** differ at most in the alias file. -/
theorem foldl_add_perm {groups groups' : List ArgumentGroup} (h : groups.Perm groups') :
    groups'.foldl add {}
      = { groups.foldl add {} with aliasFile := ArgumentGroup.lastFile? groups' } := by
  refine ext_isOn (askedBy_foldl groups').file fun s => ?_
  have hsame : isOn { groups.foldl add {} with aliasFile := ArgumentGroup.lastFile? groups' } s
      = (groups.foldl add {}).isOn s := by cases s <;> rfl
  rw [hsame, Bool.eq_iff_iff, (askedBy_foldl groups').switches, (askedBy_foldl groups).switches]
  simp only [h.mem_iff]

/-! ### The grammar -/

/-- What is said of arguments that cannot be read. -/
def complaint? (arguments : List String) : Option String :=
  match parse arguments with
  | .ok _ => none
  | .error fault => some fault.message

/-- What the grammar says of arguments. -/
structure Grammar (arguments : List String) : Prop where
  /-- They are right if they are a row of groups. -/
  accepted : (∃ i, parse arguments = .ok i) ↔ ∃ groups, arguments = ArgumentGroup.row groups
  asked : ∀ groups i, arguments = ArgumentGroup.row groups → parse arguments = .ok i →
    AskedBy groups i
  /-- In another order the groups ask for the same, but for the alias file that is then last. -/
  reordered : ∀ groups groups' i, arguments = ArgumentGroup.row groups → groups.Perm groups' →
    parse arguments = .ok i →
      parse (ArgumentGroup.row groups')
        = .ok { i with aliasFile := ArgumentGroup.lastFile? groups' }
  /-- The option for the alias file is missed if it is all that is left behind the groups. -/
  bare : complaint? arguments = some "--aliases requires a file" ↔
    ∃ groups, ∃ option ∈ aliasOptions, arguments = ArgumentGroup.row groups ++ [option]
  /-- An argument is unknown if it comes up behind groups and begins none. -/
  stray : ∀ argument, complaint? arguments = some ("unknown option: " ++ argument) ↔
    ∃ groups rest, ¬ ArgumentGroup.Opens argument ∧
      arguments = ArgumentGroup.row groups ++ argument :: rest
  /-- Nothing else is ever said. -/
  only : ∀ text, complaint? arguments = some text →
    text = "--aliases requires a file" ∨ ∃ argument, text = "unknown option: " ++ argument

theorem parse_groups (groups : List ArgumentGroup) :
    parse (ArgumentGroup.row groups) = .ok (groups.foldl add {}) := by
  have h := parse_row groups .nothing
  rwa [List.append_nil] at h

theorem complaint?_row (groups : List ArgumentGroup) {rest : List String}
    {fault : Option UsageFault} (h : Left rest fault) :
    complaint? (ArgumentGroup.row groups ++ rest) = fault.map UsageFault.message := by
  rw [complaint?, parse_row groups h]
  cases fault with
  | none => rfl
  | some fault => rfl

/-- The two things that are said differ in their first character. -/
theorem message_unknownOption_ne (argument : String) :
    (UsageFault.unknownOption argument).message ≠ UsageFault.aliasesWithoutFile.message := by
  intro h
  have hhead : ("unknown option: " ++ argument).toList.head?
      = "--aliases requires a file".toList.head? :=
    congrArg (fun text => text.toList.head?) h
  simp at hhead

/-- **Arguments are right if they are a row of groups.** -/
theorem accepted_iff (arguments : List String) :
    (∃ i, parse arguments = .ok i) ↔ ∃ groups, arguments = ArgumentGroup.row groups := by
  constructor
  · rintro ⟨i, hi⟩
    obtain ⟨groups, rest, fault, rfl, hleft⟩ := exists_row arguments
    rw [parse_row groups hleft] at hi
    cases hleft with
    | nothing => exact ⟨groups, List.append_nil _⟩
    | bare => exact nomatch hi
    | stray => exact nomatch hi
  · rintro ⟨groups, rfl⟩
    exact ⟨_, parse_groups groups⟩

/-- What is said of arguments that cannot be read is said of what is left of them. -/
theorem exists_left_of_complaint? {arguments : List String} {text : String}
    (h : complaint? arguments = some text) :
    ∃ groups rest fault, arguments = ArgumentGroup.row groups ++ rest ∧ Left rest (some fault) ∧
      fault.message = text := by
  obtain ⟨groups, rest, fault, rfl, hleft⟩ := exists_row arguments
  rw [complaint?_row groups hleft, Option.map_eq_some_iff] at h
  obtain ⟨fault, rfl, hmessage⟩ := h
  exact ⟨groups, rest, fault, rfl, hleft, hmessage⟩

theorem complaint?_bare_iff (arguments : List String) :
    complaint? arguments = some "--aliases requires a file" ↔
      ∃ groups, ∃ option ∈ aliasOptions, arguments = ArgumentGroup.row groups ++ [option] := by
  constructor
  · intro h
    obtain ⟨groups, rest, fault, rfl, hleft, hmessage⟩ := exists_left_of_complaint? h
    cases hleft with
    | bare hoption => exact ⟨groups, _, hoption, rfl⟩
    | stray => exact (message_unknownOption_ne _ hmessage).elim
  · rintro ⟨groups, option, h, rfl⟩
    exact complaint?_row groups (.bare h)

theorem complaint?_stray_iff (arguments : List String) (argument : String) :
    complaint? arguments = some ("unknown option: " ++ argument) ↔
      ∃ groups rest, ¬ ArgumentGroup.Opens argument ∧
        arguments = ArgumentGroup.row groups ++ argument :: rest := by
  constructor
  · intro h
    obtain ⟨groups, rest, fault, rfl, hleft, hmessage⟩ := exists_left_of_complaint? h
    cases hleft with
    | bare => exact (message_unknownOption_ne argument hmessage.symm).elim
    | @stray argument' hstray rest =>
        obtain rfl : argument' = argument :=
          (String.append_right_inj "unknown option: ").mp hmessage
        exact ⟨groups, rest, hstray, rfl⟩
  · rintro ⟨groups, rest, h, rfl⟩
    exact complaint?_row groups (.stray h rest)

theorem complaint?_cases {arguments : List String} {text : String}
    (h : complaint? arguments = some text) :
    text = "--aliases requires a file" ∨ ∃ argument, text = "unknown option: " ++ argument := by
  obtain ⟨groups, rest, fault, -, hleft, hmessage⟩ := exists_left_of_complaint? h
  cases hleft with
  | bare => exact Or.inl hmessage.symm
  | @stray argument => exact Or.inr ⟨argument, hmessage.symm⟩

/-- **Arguments follow the grammar of groups**, whatever they are. -/
theorem arguments_read_in_groups (arguments : List String) : Grammar arguments where
  accepted := accepted_iff arguments
  asked := by
    rintro groups i rfl hi
    obtain rfl := Except.ok.inj ((parse_groups groups).symm.trans hi)
    exact askedBy_foldl groups
  reordered := by
    rintro groups groups' i rfl hperm hi
    obtain rfl := Except.ok.inj ((parse_groups groups).symm.trans hi)
    rw [parse_groups, foldl_add_perm hperm]
  bare := complaint?_bare_iff arguments
  stray := complaint?_stray_iff arguments
  only := fun _ => complaint?_cases

/-- Behind the option for the alias file a switch is the name of a file, and of two files the last
one counts. -/
example : parse ["-a", "--json", "-b", "--aliases", "-a"]
    = .ok { aliasFile := some "-a", batch := true } := by decide

end Invocation

end Adventure
