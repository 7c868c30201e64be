import Provision.CommandLine.Arguments
/-!
The lines that spell arguments, as the arguments are declared.

The grammar says nothing of how a line is read. A parser of the declared arguments accepts the lines
that spell some, for what they spell, and takes no other line for a request for help than one with
an argument that asks for it.
-/

namespace Provision

def Command.word : Command → String
  | .up => "up"
  | .status => "status"

namespace CommandLine

/-- A dash and at least one more character. -/
def LooksLikeOption (argument : String) : Prop :=
  ∃ letter rest, argument.toList = '-' :: letter :: rest

/-- A line adds its arguments, from the left, to those that were given before it. -/
inductive Adds : Arguments → List String → Arguments → Prop
  | nothing (given : Arguments) : Adds given [] given
  | command {given arguments : Arguments} {command : Command} {rest : List String}
      (first : given.command = none)
      (later : Adds { given with command := some command } rest arguments) :
      Adds given (command.word :: rest) arguments
  | marker {given arguments : Arguments} {mode : MarkerMode} {rest : List String}
      (first : given.marker = none)
      (later : Adds { given with marker := some mode } rest arguments) :
      Adds given ("--marker" :: mode.word :: rest) arguments
  | markerAttached {given arguments : Arguments} {mode : MarkerMode} {rest : List String}
      (first : given.marker = none)
      (later : Adds { given with marker := some mode } rest arguments) :
      Adds given (("--marker=" ++ mode.word) :: rest) arguments
  | version {given arguments : Arguments} {version : String} {rest : List String}
      (first : given.markerVersion = none) (plain : ¬LooksLikeOption version)
      (later : Adds { given with markerVersion := some version } rest arguments) :
      Adds given ("--marker-version" :: version :: rest) arguments
  | versionAttached {given arguments : Arguments} {version : String} {rest : List String}
      (first : given.markerVersion = none)
      (later : Adds { given with markerVersion := some version } rest arguments) :
      Adds given (("--marker-version=" ++ version) :: rest) arguments
  | noVerify {given arguments : Arguments} {rest : List String} (first : given.noVerify = false)
      (later : Adds { given with noVerify := true } rest arguments) :
      Adds given ("--no-verify" :: rest) arguments
  | separator (given : Arguments) : Adds given ["--"] given
  | separated {given : Arguments} {command : Command} (first : given.command = none) :
      Adds given ["--", command.word] { given with command := some command }

def Spells (line : List String) (arguments : Arguments) : Prop :=
  Adds {} line arguments

/-- One of the arguments is the long option for help, or starts like the short one. -/
def AsksHelp (line : List String) : Prop :=
  ∃ argument ∈ line, argument = "--help" ∨ ∃ rest, argument.toList = '-' :: 'h' :: rest

/-- What a parser of the declared arguments is documented to do. -/
structure Documented (parse : List String → Parsed) : Prop where
  accepted : ∀ line arguments, parse line = .accepted arguments ↔ Spells line arguments
  help : ∀ line, parse line = .help → AsksHelp line

/-! ### Arguments by their looks -/

theorem commandOfWord_word (command : Command) : commandOfWord command.word = some command := by
  cases command <;> decide

theorem eq_word_of_commandOfWord {word : String} {command : Command}
    (known : commandOfWord word = some command) : word = command.word := by
  unfold commandOfWord at known
  split at known
  case isTrue up =>
    obtain rfl := Option.some.inj known
    exact up
  case isFalse =>
    split at known
    case isTrue status =>
      obtain rfl := Option.some.inj known
      exact status
    case isFalse => cases known

theorem eq_word_of_ofWord {word : String} {mode : MarkerMode}
    (known : MarkerMode.ofWord word = some mode) : word = mode.word := by
  unfold MarkerMode.ofWord at known
  split at known
  case isTrue skip =>
    obtain rfl := Option.some.inj known
    exact skip
  case isFalse =>
    split at known
    case isTrue seed =>
      obtain rfl := Option.some.inj known
      exact seed
    case isFalse => cases known

theorem eq_name_of_ofName {name : String} {flag : Flag} (known : Flag.ofName name = some flag) :
    name = flag.name := by
  unfold Flag.ofName at known
  have named : flag.name = name := by simpa using List.find?_some known
  exact named.symm

theorem ofName_name (flag : Flag) : Flag.ofName flag.name = some flag := by
  cases flag <;> decide

theorem eq_of_splitValue_none {cs : List Char} {name : String}
    (split : splitValue cs = (name, none)) : cs = name.toList := by
  have whole : cs.takeWhile (· ≠ '=') ++ cs.dropWhile (· ≠ '=') = cs :=
    List.takeWhile_append_dropWhile
  unfold splitValue at split
  cases behind : cs.dropWhile (· ≠ '=') with
  | nil =>
    rw [behind] at split whole
    obtain rfl := congrArg Prod.fst split
    simpa using whole.symm
  | cons sign value =>
    rw [behind] at split
    cases congrArg Prod.snd split

theorem eq_of_splitValue_some {cs : List Char} {name value : String}
    (split : splitValue cs = (name, some value)) : cs = name.toList ++ '=' :: value.toList := by
  have whole : cs.takeWhile (· ≠ '=') ++ cs.dropWhile (· ≠ '=') = cs :=
    List.takeWhile_append_dropWhile
  have sign := List.head?_dropWhile_not (· ≠ '=') cs
  unfold splitValue at split
  cases behind : cs.dropWhile (· ≠ '=') with
  | nil =>
    rw [behind] at split
    cases congrArg Prod.snd split
  | cons found rest =>
    rw [behind] at split whole sign
    obtain rfl := congrArg Prod.fst split
    obtain rfl := Option.some.inj (congrArg Prod.snd split)
    obtain rfl : found = '=' := by simpa using sign
    simpa using whole.symm

/-- What an argument is made of, by its looks. -/
inductive Made (argument : String) : Shape → Prop
  | separator (same : argument = "--") : Made argument .separator
  | long {name : String} (same : argument = "--" ++ name) : Made argument (.long name none)
  | attached {name value : String} (same : argument = "--" ++ name ++ "=" ++ value) :
      Made argument (.long name (some value))
  | short {letter : Char} {rest : List Char} (chars : argument.toList = '-' :: letter :: rest) :
      Made argument (.short letter)
  | word (plain : ¬LooksLikeOption argument) : Made argument (.word argument)

theorem made_shape (argument : String) : Made argument (shape argument) := by
  unfold shape
  split
  case h_1 chars => exact .separator (String.toList_injective chars)
  case h_2 rest _ chars =>
    cases split : splitValue rest with
    | mk name value =>
      cases value with
      | none =>
        apply Made.long
        apply String.toList_injective
        simp [chars, eq_of_splitValue_none split, String.toList_append]
      | some value =>
        apply Made.attached
        apply String.toList_injective
        simp [chars, eq_of_splitValue_some split, String.toList_append]
  case h_3 chars => exact .short chars
  case h_4 other =>
    apply Made.word
    intro option
    obtain ⟨letter, rest, chars⟩ := option
    exact other letter rest chars

theorem shape_of_plain {argument : String} (plain : ¬LooksLikeOption argument) :
    shape argument = .word argument := by
  have made := made_shape argument
  cases looks : shape argument <;> rw [looks] at made <;> cases made
  case separator same =>
    subst same
    exact absurd ⟨_, _, rfl⟩ plain
  case long.long same =>
    subst same
    exact absurd ⟨_, _, String.toList_append⟩ plain
  case long.attached same =>
    subst same
    rw [String.append_assoc, String.append_assoc] at plain
    exact absurd ⟨_, _, String.toList_append⟩ plain
  case short chars => exact absurd ⟨_, _, chars⟩ plain
  case word => rfl

theorem shape_option (flag : Flag) : shape ("--" ++ flag.name) = .long flag.name none := by
  cases flag <;> cbv

theorem shape_attached (flag : Flag) (value : String) :
    shape ("--" ++ flag.name ++ "=" ++ value) = .long flag.name (some value) := by
  cases flag <;> simp [shape, Flag.name, String.toList_append, splitValue]

/-! ### What is pending -/

/-- What comes of a pending value that is in order. -/
inductive Settles (given : Arguments) : Pending → Arguments → Prop
  | nothing : Settles given .nothing given
  | command {command : Command} (first : given.command = none) :
      Settles given (.command command.word) { given with command := some command }
  | marker {mode : MarkerMode} (first : given.marker = none) :
      Settles given (.marker (some mode.word)) { given with marker := some mode }
  | markerVersion {version : String} (first : given.markerVersion = none) :
      Settles given (.markerVersion (some version)) { given with markerVersion := some version }

/-- An option that waits for its value takes the next argument, and nothing else settles it. -/
def Pending.waits : Pending → Bool
  | .marker none | .markerVersion none => true
  | _ => false

/-- The options that take a value, with what they make pending. -/
inductive Valued : Flag → (Option String → Pending) → Prop
  | marker : Valued .marker .marker
  | markerVersion : Valued .markerVersion .markerVersion

namespace Valued

variable {flag : Flag} {start : Option String → Pending} (valued : Valued flag start)
include valued

theorem waits : (start none).waits = true := by
  cases valued <;> rfl

theorem ready (text : String) : (start (some text)).waits = false := by
  cases valued <;> rfl

theorem takeWord (given : Arguments) (text : String) :
    takeWord given (start none) text = some (given, start (some text)) := by
  cases valued <;> rfl

end Valued

section

variable {given settled : Arguments} {pending : Pending}

theorem settle_eq_some_iff :
    settle given pending = some settled ↔ Settles given pending settled := by
  constructor
  · intro settles
    cases pending with
    | nothing =>
      obtain rfl := Option.some.inj settles
      exact .nothing
    | command word =>
      cases first : given.command <;> cases known : commandOfWord word <;>
        simp [settle, first, known] at settles
      obtain rfl := eq_word_of_commandOfWord known
      exact settles ▸ .command first
    | marker word =>
      cases first : given.marker <;> cases word <;> simp [settle, first] at settles
      case none.some word =>
        cases known : MarkerMode.ofWord word <;> simp [known] at settles
        obtain rfl := eq_word_of_ofWord known
        exact settles ▸ .marker first
    | markerVersion text =>
      cases first : given.markerVersion <;> cases text <;> simp [settle, first] at settles
      exact settles ▸ .markerVersion first
  · intro settles
    cases settles with
    | nothing => rfl
    | command first => simp [settle, first, commandOfWord_word]
    | marker first => simp [settle, first, MarkerMode.ofWord_word]
    | markerVersion first => simp [settle, first]

theorem settle_eq_none_of_waits (waits : pending.waits = true) : settle given pending = none := by
  cases settles : settle given pending with
  | none => rfl
  | some settled => cases settle_eq_some_iff.1 settles <;> cases waits

theorem waits_of_settle (settles : settle given pending = some settled) :
    pending.waits = false := by
  cases settle_eq_some_iff.1 settles <;> rfl

theorem takeWord_of_ready (ready : pending.waits = false) (text : String) :
    takeWord given pending text = (settle given pending).bind fun settled =>
      if settled.command.isSome then none else some (settled, .command text) := by
  cases settles : settle given pending
  all_goals
    cases pending with
    | nothing | command =>
      unfold takeWord
      simp only [settles]
      rfl
    | marker word | markerVersion word =>
      cases word with
      | none => cases ready
      | some word =>
        unfold takeWord
        simp only [settles]
        rfl

theorem readWords_of_unsettled (unsettled : settle given pending = none) (line : List String) :
    readWords given pending line = .rejected := by
  cases line <;> simp only [readWords, unsettled]

theorem readWords_of_settled (settles : settle given pending = some settled)
    (line : List String) : readWords given pending line = readWords settled .nothing line := by
  have again : settle settled .nothing = some settled := rfl
  cases line <;> simp only [readWords, settles, again]

theorem readWords_cons (text : String) (rest : List String) :
    readWords given .nothing (text :: rest) =
      if given.command.isSome then .rejected else readWords given (.command text) rest := rfl

end

/-! ### One argument -/

/-- Goes on with what was taken over, unless that failed. -/
def goOn (rest : List String) : Option (Arguments × Pending) → Parsed
  | none => .rejected
  | some (given, pending) => readFrom given pending rest

theorem readFrom_nil (given : Arguments) (pending : Pending) :
    readFrom given pending [] = readWords given pending [] := rfl

theorem readFrom_cons (given : Arguments) (pending : Pending) (argument : String)
    (rest : List String) :
    readFrom given pending (argument :: rest) = match shape argument with
      | .separator => readWords given pending rest
      | .word text => goOn rest (takeWord given pending text)
      | .short letter =>
        if letter = 'h' ∧ (settle given pending).isSome then .help else .rejected
      | .long name value => match Flag.ofName name, settle given pending with
        | some .help, some _ => if value.isSome then .rejected else .help
        | some .noVerify, some settled =>
          if value.isSome || settled.noVerify then .rejected
          else readFrom { settled with noVerify := true } .nothing rest
        | some .marker, some settled => goOn rest (takeOption settled .marker value)
        | some .markerVersion, some settled => goOn rest (takeOption settled .markerVersion value)
        | _, _ => .rejected := rfl

/-- What a line comes to, by its first argument. -/
inductive Begins (given : Arguments) (pending : Pending) (rest : List String) :
    String → Parsed → Prop
  | separator : Begins given pending rest "--" (readWords given pending rest)
  | word {text : String} (plain : ¬LooksLikeOption text) :
      Begins given pending rest text (goOn rest (takeWord given pending text))
  | help {argument : String} {settled : Arguments} (asks : AsksHelp [argument])
      (settles : settle given pending = some settled) : Begins given pending rest argument .help
  | noVerify {settled : Arguments} (settles : settle given pending = some settled)
      (first : settled.noVerify = false) :
      Begins given pending rest "--no-verify"
        (readFrom { settled with noVerify := true } .nothing rest)
  | option {flag : Flag} {start : Option String → Pending} {argument : String}
      {value : Option String} {settled : Arguments} (valued : Valued flag start)
      (looks : shape argument = .long flag.name value)
      (settles : settle given pending = some settled) :
      Begins given pending rest argument (goOn rest (takeOption settled start value))
  | rejected {argument : String} : Begins given pending rest argument .rejected

section

variable (given : Arguments) (pending : Pending) (argument : String) (rest : List String)

theorem begins :
    Begins given pending rest argument (readFrom given pending (argument :: rest)) := by
  have made := made_shape argument
  rw [readFrom_cons]
  cases looks : shape argument with
  | separator =>
    rw [looks] at made
    cases made with
    | separator same => exact same ▸ .separator
  | word text =>
    rw [looks] at made
    cases made with
    | word plain => exact .word plain
  | short letter =>
    rw [looks] at made
    cases made with
    | short chars =>
      simp only
      split
      case isTrue helps =>
        obtain ⟨rfl, some⟩ := helps
        obtain ⟨settled, settles⟩ := Option.isSome_iff_exists.1 some
        exact .help ⟨argument, .head _, .inr ⟨_, chars⟩⟩ settles
      case isFalse => exact .rejected
  | long name value =>
    cases known : Flag.ofName name with
    | none =>
      simp only [known]
      exact .rejected
    | some flag =>
      obtain rfl := eq_name_of_ofName known
      cases settles : settle given pending with
      | none =>
        simp only [known]
        cases flag <;> exact .rejected
      | some settled =>
        simp only [known]
        cases flag with
        | help =>
          cases value with
          | some text => exact .rejected
          | none =>
            rw [looks] at made
            cases made with
            | long same => exact .help ⟨argument, .head _, .inl same⟩ settles
        | noVerify =>
          cases value with
          | some text => exact .rejected
          | none =>
            rw [looks] at made
            cases made with
            | long same =>
              subst same
              cases first : settled.noVerify with
              | true =>
                simp only [first, Option.isSome_none, Bool.false_or, ↓reduceIte]
                exact .rejected
              | false =>
                simp only [first, Option.isSome_none, Bool.false_or, Bool.false_eq_true, ↓reduceIte]
                exact .noVerify settles first
        | marker => exact .option .marker looks settles
        | markerVersion => exact .option .markerVersion looks settles

end

/-! ### A line is accepted for what it spells -/

section

variable {given settled : Arguments} {pending : Pending}

/-- What is pending may as well be taken over before reading on. -/
theorem readFrom_of_settled (settles : settle given pending = some settled)
    (line : List String) : readFrom given pending line = readFrom settled .nothing line := by
  have words (text : String) : takeWord given pending text = takeWord settled .nothing text := by
    rw [takeWord_of_ready (waits_of_settle settles), settles]
    rfl
  have again : settle settled .nothing = some settled := rfl
  cases line with
  | nil => exact readWords_of_settled settles []
  | cons argument rest =>
    simp only [readFrom_cons, settles, again, words, readWords_of_settled settles]

theorem readFrom_of_unsettled (unsettled : settle given pending = none)
    (ready : pending.waits = false) (line : List String) :
    readFrom given pending line = .rejected := by
  cases line with
  | nil => exact readWords_of_unsettled unsettled []
  | cons argument rest =>
    have begun := begins given pending argument rest
    generalize readFrom given pending (argument :: rest) = parsed at begun ⊢
    cases begun with
    | separator => exact readWords_of_unsettled unsettled rest
    | word plain => rw [takeWord_of_ready ready, unsettled]; rfl
    | help asks settles | noVerify settles | option valued looks settles =>
      rw [unsettled] at settles
      cases settles
    | rejected => rfl

variable {text argument : String} {value : Option String}

theorem readFrom_separator (rest : List String) :
    readFrom given pending ("--" :: rest) = readWords given pending rest := by
  have separator : shape "--" = .separator := by cbv
  rw [readFrom_cons]
  simp only [separator]

theorem readFrom_word (plain : ¬LooksLikeOption text) (rest : List String) :
    readFrom given pending (text :: rest) = goOn rest (takeWord given pending text) := by
  rw [readFrom_cons]
  simp only [shape_of_plain plain]

theorem takeWord_first (first : given.command = none) :
    takeWord given .nothing text = some (given, .command text) := by
  simp [takeWord, settle, first]

/-- A value is checked once, whether it is attached to its option or comes next. -/
theorem goOn_takeOption {flag : Flag} {start : Option String → Pending}
    (valued : Valued flag start) (rest : List String) :
    goOn rest (takeOption given start value) = readFrom given (start value) rest := by
  cases value with
  | none => rfl
  | some text =>
    unfold takeOption
    cases settles : settle given (start (some text)) with
    | none =>
      rw [readFrom_of_unsettled settles (valued.ready text)]
      rfl
    | some settled =>
      rw [readFrom_of_settled settles]
      rfl

theorem readFrom_option {flag : Flag} {start : Option String → Pending}
    (valued : Valued flag start) (looks : shape argument = .long flag.name value)
    (rest : List String) :
    readFrom given .nothing (argument :: rest) = readFrom given (start value) rest := by
  have idle : settle given .nothing = some given := rfl
  rw [readFrom_cons, ← goOn_takeOption valued]
  simp only [looks, ofName_name, idle]
  cases valued <;> rfl

theorem readFrom_noVerify (first : given.noVerify = false) (rest : List String) :
    readFrom given .nothing ("--no-verify" :: rest) =
      readFrom { given with noVerify := true } .nothing rest := by
  have looks : shape "--no-verify" = .long "no-verify" none := shape_option .noVerify
  have named : Flag.ofName "no-verify" = some .noVerify := ofName_name .noVerify
  have idle : settle given .nothing = some given := rfl
  rw [readFrom_cons]
  simp only [looks, named, idle, first, Option.isSome_none, Bool.or_self, Bool.false_eq_true,
    ↓reduceIte]

end

theorem plain_word (command : Command) : ¬LooksLikeOption command.word := by
  intro option
  obtain ⟨letter, rest, chars⟩ := option
  cases command <;> simp [Command.word] at chars

theorem plain_mode (mode : MarkerMode) : ¬LooksLikeOption mode.word := by
  intro option
  obtain ⟨letter, rest, chars⟩ := option
  cases mode <;> simp [MarkerMode.word] at chars

theorem accepted_of_settles {given settled arguments : Arguments} {pending : Pending}
    {line : List String} (settles : Settles given pending settled)
    (later : readFrom settled .nothing line = .accepted arguments) :
    readFrom given pending line = .accepted arguments :=
  (readFrom_of_settled (settle_eq_some_iff.2 settles) line).trans later

theorem accepted_of_adds {given arguments : Arguments} {line : List String}
    (adds : Adds given line arguments) :
    readFrom given .nothing line = .accepted arguments := by
  induction adds with
  | nothing given => rfl
  | @command given arguments command rest first later ih =>
    rw [readFrom_word (plain_word command), takeWord_first first]
    exact accepted_of_settles (.command first) ih
  | @marker given arguments mode rest first later ih =>
    refine (readFrom_option .marker (shape_option .marker) (mode.word :: rest)).trans ?_
    rw [readFrom_word (plain_mode mode)]
    exact accepted_of_settles (.marker first) ih
  | @markerAttached given arguments mode rest first later ih =>
    refine (readFrom_option .marker (shape_attached .marker mode.word) rest).trans ?_
    exact accepted_of_settles (.marker first) ih
  | @version given arguments version rest first plain later ih =>
    refine (readFrom_option .markerVersion (shape_option .markerVersion) (version :: rest)).trans ?_
    rw [readFrom_word plain]
    exact accepted_of_settles (.markerVersion first) ih
  | @versionAttached given arguments version rest first later ih =>
    refine (readFrom_option .markerVersion (shape_attached .markerVersion version) rest).trans ?_
    exact accepted_of_settles (.markerVersion first) ih
  | noVerify first later ih =>
    rw [readFrom_noVerify first]
    exact ih
  | separator given =>
    rw [readFrom_separator]
    rfl
  | @separated given command first =>
    have settles : settle given (.command command.word) = some _ :=
      settle_eq_some_iff.2 (.command first)
    rw [readFrom_separator, readWords_cons, first]
    exact readWords_of_settled settles []

/-! ### And for nothing else -/

section

variable {given arguments : Arguments} {pending : Pending} {line : List String}

theorem settle_of_accepted (ready : pending.waits = false)
    (accepted : readFrom given pending line = .accepted arguments) :
    ∃ settled, Settles given pending settled ∧
      readFrom settled .nothing line = .accepted arguments := by
  cases settles : settle given pending with
  | none =>
    rw [readFrom_of_unsettled settles ready] at accepted
    cases accepted
  | some settled =>
    rw [readFrom_of_settled settles] at accepted
    exact ⟨settled, settle_eq_some_iff.1 settles, accepted⟩

theorem value_of_accepted (waits : pending.waits = true)
    (accepted : readFrom given pending line = .accepted arguments) :
    ∃ text rest, line = text :: rest ∧ ¬LooksLikeOption text := by
  have unsettled : settle given pending = none := settle_eq_none_of_waits waits
  cases line with
  | nil =>
    rw [readFrom_nil, readWords_of_unsettled unsettled] at accepted
    cases accepted
  | cons argument rest =>
    have begun := begins given pending argument rest
    generalize readFrom given pending (argument :: rest) = parsed at begun accepted
    cases begun with
    | separator =>
      rw [readWords_of_unsettled unsettled] at accepted
      cases accepted
    | word plain => exact ⟨argument, rest, rfl, plain⟩
    | help asks settles | noVerify settles | option valued looks settles =>
      rw [unsettled] at settles
      cases settles
    | rejected => cases accepted

theorem adds_of_separator (accepted : readWords given .nothing line = .accepted arguments) :
    Adds given ("--" :: line) arguments := by
  cases line with
  | nil =>
    obtain rfl := Parsed.accepted.inj accepted
    exact .separator given
  | cons text rest =>
    cases first : given.command with
    | some command =>
      rw [readWords_cons, first] at accepted
      cases accepted
    | none =>
      have later : readWords given (.command text) rest = .accepted arguments := by
        rwa [readWords_cons, first] at accepted
      cases settles : settle given (.command text) with
      | none =>
        rw [readWords_of_unsettled settles] at later
        cases later
      | some settled =>
        rw [readWords_of_settled settles] at later
        cases settle_eq_some_iff.1 settles with
        | command =>
          cases rest with
          | nil =>
            obtain rfl := Parsed.accepted.inj later
            exact .separated first
          | cons another rest =>
            rw [readWords_cons] at later
            cases later

theorem adds_of_accepted :
    ∀ (line : List String) (given : Arguments),
      readFrom given .nothing line = .accepted arguments → Adds given line arguments
  | [], given, accepted => by
    obtain rfl := Parsed.accepted.inj accepted
    exact .nothing given
  | argument :: rest, given, accepted => by
    have begun := begins given .nothing argument rest
    generalize readFrom given .nothing (argument :: rest) = parsed at begun accepted
    cases begun with
    | separator => exact adds_of_separator accepted
    | word plain =>
      cases first : given.command with
      | some command =>
        simp only [takeWord, settle, first] at accepted
        cases accepted
      | none =>
        rw [takeWord_first first] at accepted
        obtain ⟨settled, settles, later⟩ := settle_of_accepted rfl accepted
        cases settles with
        | command => exact .command first (adds_of_accepted rest _ later)
    | help => cases accepted
    | noVerify settles first =>
      obtain rfl := Option.some.inj settles
      exact .noVerify first (adds_of_accepted rest _ accepted)
    | option valued looks settles =>
      obtain rfl := Option.some.inj settles
      rw [goOn_takeOption valued] at accepted
      have made := made_shape argument
      rw [looks] at made
      cases made with
      | long same =>
        subst same
        obtain ⟨text, rest, rfl, plain⟩ := value_of_accepted valued.waits accepted
        rw [readFrom_word plain, valued.takeWord] at accepted
        obtain ⟨settled, settles, later⟩ := settle_of_accepted (valued.ready text) accepted
        cases valued with
        | marker =>
          cases settles with
          | marker first => exact .marker first (adds_of_accepted rest _ later)
        | markerVersion =>
          cases settles with
          | markerVersion first => exact .version first plain (adds_of_accepted rest _ later)
      | attached same =>
        subst same
        obtain ⟨settled, settles, later⟩ := settle_of_accepted (valued.ready _) accepted
        cases valued with
        | marker =>
          cases settles with
          | marker first => exact .markerAttached first (adds_of_accepted rest _ later)
        | markerVersion =>
          cases settles with
          | markerVersion first => exact .versionAttached first (adds_of_accepted rest _ later)
    | rejected => cases accepted
termination_by line => line.length

theorem readWords_ne_help (given : Arguments) (pending : Pending) (line : List String) :
    readWords given pending line ≠ .help := by
  induction line generalizing given pending with
  | nil =>
    unfold readWords
    cases settle given pending <;> nofun
  | cons text rest ih =>
    unfold readWords
    cases settle given pending with
    | none => nofun
    | some settled =>
      simp only
      split
      · nofun
      · exact ih _ _

theorem asksHelp_of_help (asked : readFrom given pending line = .help) : AsksHelp line := by
  induction line generalizing given pending with
  | nil => exact absurd asked (readWords_ne_help given pending [])
  | cons argument rest ih =>
    have later {given : Arguments} {pending : Pending}
        (asked : readFrom given pending rest = .help) : AsksHelp (argument :: rest) := by
      obtain ⟨found, member, asks⟩ := ih asked
      exact ⟨found, .tail _ member, asks⟩
    have further {next : Option (Arguments × Pending)} (asked : goOn rest next = .help) :
        AsksHelp (argument :: rest) := by
      cases next with
      | none => cases asked
      | some taken => exact later asked
    have begun := begins given pending argument rest
    generalize readFrom given pending (argument :: rest) = parsed at begun asked
    cases begun with
    | separator => exact absurd asked (readWords_ne_help _ _ _)
    | word plain => exact further asked
    | help asks =>
      obtain ⟨found, member, asks⟩ := asks
      exact ⟨found, List.mem_cons.2 (.inl (List.mem_singleton.1 member)), asks⟩
    | noVerify settles first => exact later asked
    | option valued looks settles => exact further asked
    | rejected => cases asked

end

/-- The parser of this library is one of those. -/
theorem read_documented : Documented read where
  accepted line _ := ⟨adds_of_accepted line {}, accepted_of_adds⟩
  help _ asked := asksHelp_of_help asked

end CommandLine

end Provision
