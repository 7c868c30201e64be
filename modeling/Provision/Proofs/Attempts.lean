import Mathlib
import Provision.Proofs.FirstDocument
/-!
Attempts: how often a connection is tried.

An attempt is followed by another one only if the datastore was unavailable and the limit is not
reached. So the first outcome of any other kind is the last one, there is one pause between two
attempts and none behind the last, and no attempt has a number past the limit. A server that answers
a ping with an error code has been reached, so nobody logs in to it a second time.
-/

namespace Provision

namespace Retry

def Unavailable {α : Type} (outcome : Except Fault α) : Prop :=
  ∃ fault, outcome = .error fault ∧ fault.kind = .unavailable

section

variable {I : Interface} {α σ : Type} (connect : Program I (Except Fault α))
variable (pause : UInt64 → Program I Unit)

/-! ### The number of an attempt -/

/-- The attempts with their number in a word of 32 bits. It is compared with the limit before it
grows. -/
def countedFrom (limit : UInt32) (interval : UInt64) (number : UInt32) :
    Program I (Except Fault α) :=
  connect.bind fun
    | .ok value =>
      if 1 < number then .emit (.attemptSucceeded number.toNat interval) (.done (.ok value))
      else .done (.ok value)
    | .error fault =>
      if fault.isRetryable = true ∧ number < limit then
        .emit (.attemptFailed number.toNat limit.toNat interval fault)
          ((pause interval).bind fun () => countedFrom limit interval (number + 1))
      else .done (.error fault)
termination_by limit.toNat - number.toNat
decreasing_by
  rename_i below
  have := UInt32.lt_iff_toNat_lt.1 below.2
  have := limit.toNat_lt
  rw [UInt32.toNat_add]
  simp only [UInt32.reduceToNat]
  omega

theorem toNat_add_one {number limit : UInt32} (below : number.toNat < limit.toNat) :
    (number + 1).toNat = number.toNat + 1 := by
  have bound := limit.toNat_lt
  rw [UInt32.toNat_add]
  simp only [UInt32.reduceToNat]
  omega

/-- The word never overflows: the attempts are those that are counted without a bound. -/
theorem countedFrom_eq (limit number : UInt32) (interval : UInt64) (left : Nat)
    (total : number.toNat + left = limit.toNat) :
    countedFrom connect pause limit interval number =
      attemptFrom connect pause limit.toNat interval number.toNat left := by
  have later : 1 < number ↔ 1 < number.toNat := UInt32.lt_iff_toNat_lt
  induction left generalizing number with
  | zero =>
    have reached : ¬number < limit := by
      rw [UInt32.lt_iff_toNat_lt]
      omega
    unfold countedFrom attemptFrom
    congr 1
    funext outcome
    cases outcome with
    | ok value => simp only [later]
    | error fault => simp only [reached, and_false, ↓reduceIte]
  | succ left ih =>
    have below : number < limit := by
      rw [UInt32.lt_iff_toNat_lt]
      omega
    have grown := toNat_add_one (UInt32.lt_iff_toNat_lt.1 below)
    have rest := ih (number + 1) (by omega) UInt32.lt_iff_toNat_lt
    unfold countedFrom attemptFrom
    congr 1
    funext outcome
    cases outcome with
    | ok value => simp only [later]
    | error fault => simp only [below, and_true, rest, grown]

theorem retry_eq_countedFrom (attempts : UInt32) (interval : UInt64) :
    retry connect pause attempts interval =
      countedFrom connect pause (max 1 attempts) interval 1 := by
  have limit : (max 1 attempts).toNat = limitOf attempts := by
    unfold limitOf
    rw [UInt32.max_def]
    split
    case isTrue above => exact (Nat.max_eq_right (UInt32.le_iff_toNat_le.1 above)).symm
    case isFalse below =>
      refine (Nat.max_eq_left ?_).symm
      exact Nat.le_of_lt (Nat.not_le.1 fun above => below (UInt32.le_iff_toNat_le.2 above))
  have positive : 1 ≤ limitOf attempts := Nat.le_max_left 1 _
  rw [countedFrom_eq connect pause (max 1 attempts) 1 interval (limitOf attempts - 1)]
  · rw [limit]
    rfl
  · rw [limit]
    simp only [UInt32.reduceToNat]
    omega

/-! ### One attempt and what follows it -/

variable {connect pause} {handler : Handler I σ} {state : σ} {limit number left : Nat}
variable {interval : UInt64}

theorem isRetryable_iff {fault : Fault} : fault.isRetryable = true ↔ fault.kind = .unavailable :=
  decide_eq_true_iff

def closing (number : Nat) (interval : UInt64) : Except Fault α → List Event
  | .ok _ => if 1 < number then [.attemptSucceeded number interval] else []
  | .error _ => []

theorem attemptFrom_last
    (last : left = 0 ∨ ¬Unavailable (connect.run handler state).value) :
    (attemptFrom connect pause limit interval number left).trace handler state =
        connect.trace handler state ∧
      (attemptFrom connect pause limit interval number left).run handler state =
        let only := connect.run handler state
        ⟨only.value, only.log ++ closing number interval only.value, only.state⟩ := by
  unfold attemptFrom
  rw [Program.trace_bind, Program.run_bind]
  cases outcome : (connect.run handler state).value with
  | ok value =>
    by_cases later : 1 < number
    · simp only [outcome, later, closing, Program.trace, Program.run, ↓reduceIte,
        List.append_nil, and_self]
    · simp only [outcome, later, closing, Program.trace, Program.run, ↓reduceIte,
        List.append_nil, and_self]
  | error fault =>
    cases left with
    | zero => simp only [outcome, closing, Program.trace, Program.run, List.append_nil, and_self]
    | succ left =>
      have final : fault.isRetryable = false := by
        rw [Bool.eq_false_iff]
        intro retryable
        exact last.resolve_left (Nat.succ_ne_zero left)
          ⟨fault, outcome, isRetryable_iff.1 retryable⟩
      simp only [outcome, final, closing, Program.trace, Program.run, Bool.false_eq_true,
        ↓reduceIte, List.append_nil, and_self]

theorem attemptFrom_again {fault : Fault}
    (failed : (connect.run handler state).value = .error fault)
    (unavailable : fault.kind = .unavailable) :
    let first := connect.run handler state
    let paused := (pause interval).run handler first.state
    let rest := attemptFrom connect pause limit interval (number + 1) left
    (attemptFrom connect pause limit interval number (left + 1)).trace handler state =
        connect.trace handler state ++
          ((pause interval).trace handler first.state ++ rest.trace handler paused.state) ∧
      (attemptFrom connect pause limit interval number (left + 1)).run handler state =
        let later := rest.run handler paused.state
        ⟨later.value, first.log ++ .attemptFailed number limit interval fault ::
          (paused.log ++ later.log), later.state⟩ := by
  intro first paused rest
  have retryable : fault.isRetryable = true := isRetryable_iff.2 unavailable
  have failed' : (connect.run handler state).value = .error fault := failed
  constructor
  · rw [attemptFrom, Program.trace_bind]
    simp only [failed, retryable, ↓reduceIte, Program.trace, Program.trace_bind]
    rfl
  · rw [attemptFrom, Program.run_bind]
    simp only [failed, retryable, ↓reduceIte, Program.run, Program.run_bind]
    rfl

end

/-! ### A stream of outcomes -/

section

variable {α : Type}

/-- What is asked for from the attempt at an index on, if so many more follow it. -/
def tape (outcomes : Nat → Except Fault α) (interval : UInt64) (index : Nat) :
    Nat → List (Exchange (Steps α))
  | 0 => [⟨.attempt, outcomes index⟩]
  | retries + 1 =>
    ⟨.attempt, outcomes index⟩ :: ⟨.pause interval, ()⟩ ::
      tape outcomes interval (index + 1) retries

def warning (number limit : Nat) (interval : UInt64) : Except Fault α → List Event
  | .ok _ => []
  | .error fault => [.attemptFailed number limit interval fault]

/-- What is logged from the attempt at an index on, if so many more follow it. -/
def notes (outcomes : Nat → Except Fault α) (limit : Nat) (interval : UInt64) (index : Nat) :
    Nat → List Event
  | 0 => closing (index + 1) interval (outcomes index)
  | retries + 1 =>
    warning (index + 1) limit interval (outcomes index) ++
      notes outcomes limit interval (index + 1) retries

/-- From an index on so many outcomes say that the datastore is unavailable, and then comes another
one, or as many attempts were made as were left. -/
structure Ends (outcomes : Nat → Except Fault α) (index left retries : Nat) : Prop where
  inside : retries ≤ left
  before : ∀ other < retries, Unavailable (outcomes (index + other))
  last : retries = left ∨ ¬Unavailable (outcomes (index + retries))

variable {outcomes : Nat → Except Fault α} {index left retries : Nat}

def numberIn : Event → Option Nat
  | .attemptFailed number .. | .attemptSucceeded number _ => some number
  | _ => none

theorem number_le_of_mem_notes {limit number : Nat} {interval : UInt64} {event : Event}
    (member : event ∈ notes outcomes limit interval index retries)
    (told : numberIn event = some number) : number ≤ index + retries + 1 := by
  induction retries generalizing index with
  | zero =>
    unfold notes closing at member
    split at member
    · split at member
      · obtain rfl := List.mem_singleton.1 member
        exact (Option.some.inj told).ge
      · cases member
    · cases member
  | succ retries ih =>
    rcases List.mem_append.1 member with here | later
    · unfold warning at here
      split at here
      · cases here
      · obtain rfl := List.mem_singleton.1 here
        have number : index + 1 = number := Option.some.inj told
        omega
    · have bound := ih later
      omega

theorem Ends.here (last : left = 0 ∨ ¬Unavailable (outcomes index)) :
    Ends outcomes index left 0 :=
  ⟨Nat.zero_le left, nofun, last.imp_left Eq.symm⟩

theorem Ends.later (unavailable : Unavailable (outcomes index))
    (ends : Ends outcomes (index + 1) left retries) :
    Ends outcomes index (left + 1) (retries + 1) where
  inside := Nat.succ_le_succ ends.inside
  before := by
    intro other inside
    cases other with
    | zero => exact unavailable
    | succ other =>
      have shifted := ends.before other (Nat.lt_of_succ_lt_succ inside)
      rwa [Nat.add_right_comm] at shifted
  last := by
    have last := ends.last
    rw [Nat.add_right_comm] at last
    exact last.imp_left (congrArg (· + 1))

def bareFrom (α : Type) (limit : Nat) (interval : UInt64) (number left : Nat) :
    Program (Steps α) (Except Fault α) :=
  attemptFrom (.ask (I := Steps α) .attempt) (fun ms => .ask (I := Steps α) (.pause ms)) limit
    interval number left

variable {timeline : Timeline α} {limit number : Nat} {interval : UInt64}

theorem bareFrom_last
    (last : left = 0 ∨ ¬Unavailable (timeline.outcomes timeline.attempts)) :
    (bareFrom α limit interval number left).trace Timeline.handler timeline =
        [⟨.attempt, timeline.outcomes timeline.attempts⟩] ∧
      (bareFrom α limit interval number left).run Timeline.handler timeline =
        ⟨timeline.outcomes timeline.attempts,
          closing number interval (timeline.outcomes timeline.attempts),
          { timeline with attempts := timeline.attempts + 1 }⟩ := by
  unfold bareFrom
  exact attemptFrom_last last

def Timeline.paused (timeline : Timeline α) (interval : UInt64) : Timeline α :=
  { timeline with
    attempts := timeline.attempts + 1
    elapsed := timeline.elapsed + interval.toNat }

theorem bareFrom_again (unavailable : Unavailable (timeline.outcomes timeline.attempts)) :
    let rest := bareFrom α limit interval (number + 1) left
    (bareFrom α limit interval number (left + 1)).trace Timeline.handler timeline =
        ⟨.attempt, timeline.outcomes timeline.attempts⟩ :: ⟨.pause interval, ()⟩ ::
          rest.trace Timeline.handler (timeline.paused interval) ∧
      (bareFrom α limit interval number (left + 1)).run Timeline.handler timeline =
        let later := rest.run Timeline.handler (timeline.paused interval)
        ⟨later.value,
          warning number limit interval (timeline.outcomes timeline.attempts) ++ later.log,
          later.state⟩ := by
  obtain ⟨fault, failed, kind⟩ := unavailable
  have value : ((Program.ask (I := Steps α) .attempt).run Timeline.handler timeline).value =
      .error fault := failed
  constructor
  · exact (attemptFrom_again value kind).1
  · rw [failed]
    exact (attemptFrom_again value kind).2

def Timeline.spent (timeline : Timeline α) (interval : UInt64) (retries : Nat) : Timeline α :=
  { timeline with
    attempts := timeline.attempts + retries + 1
    elapsed := timeline.elapsed + retries * interval.toNat }

/-- At a time at which so many attempts are left behind the next one, so many of them are made. -/
structure Retries (limit : Nat) (interval : UInt64) (left : Nat) (timeline : Timeline α)
    (retries : Nat) : Prop where
  ends : Ends timeline.outcomes timeline.attempts left retries
  trace : (bareFrom α limit interval (timeline.attempts + 1) left).trace Timeline.handler timeline =
    tape timeline.outcomes interval timeline.attempts retries
  run : (bareFrom α limit interval (timeline.attempts + 1) left).run Timeline.handler timeline =
    ⟨timeline.outcomes (timeline.attempts + retries),
      notes timeline.outcomes limit interval timeline.attempts retries,
      timeline.spent interval retries⟩

theorem Retries.here (last : left = 0 ∨ ¬Unavailable (timeline.outcomes timeline.attempts)) :
    Retries limit interval left timeline 0 := by
  obtain ⟨trace, run⟩ := bareFrom_last last
  refine ⟨.here last, trace, run.trans ?_⟩
  simp only [Timeline.spent, Nat.zero_mul, Nat.add_zero, notes]

theorem Retries.later (unavailable : Unavailable (timeline.outcomes timeline.attempts))
    (rest : Retries limit interval left (timeline.paused interval) retries) :
    Retries limit interval (left + 1) timeline (retries + 1) := by
  obtain ⟨trace, run⟩ := bareFrom_again unavailable
  have clock : (timeline.paused interval).spent interval retries =
      timeline.spent interval (retries + 1) := by
    simp only [Timeline.paused, Timeline.spent, Nat.succ_mul]
    congr 1 <;> omega
  have last : timeline.attempts + 1 + retries = timeline.attempts + (retries + 1) := by omega
  have ended : (bareFrom α limit interval (timeline.attempts + 1 + 1) left).run Timeline.handler
      (timeline.paused interval) = ⟨timeline.outcomes (timeline.attempts + (retries + 1)),
        notes timeline.outcomes limit interval (timeline.attempts + 1) retries,
        timeline.spent interval (retries + 1)⟩ := by
    rw [← last, ← clock]
    exact rest.run
  refine ⟨rest.ends.later unavailable, trace.trans ?_, run.trans ?_⟩
  · exact congrArg (_ :: _ :: ·) rest.trace
  · rw [ended]
    rfl

/-- However many attempts are left, the first of them that ends the matter is the last one made. -/
theorem exists_retries (limit : Nat) (interval : UInt64) (left : Nat) (timeline : Timeline α) :
    ∃ retries, Retries limit interval left timeline retries := by
  induction left generalizing timeline with
  | zero => exact ⟨0, .here (.inl rfl)⟩
  | succ left ih =>
    by_cases unavailable : Unavailable (timeline.outcomes timeline.attempts)
    · obtain ⟨retries, rest⟩ := ih (timeline.paused interval)
      exact ⟨retries + 1, rest.later unavailable⟩
    · exact ⟨0, .here (.inr unavailable)⟩

/-- The position of the first outcome that another attempt cannot change, counted from one. -/
noncomputable def firstFinal (outcomes : Nat → Except Fault α) : ℕ∞ :=
  ⨅ index ∈ {index | ¬Unavailable (outcomes index)}, (index + 1 : ℕ∞)

theorem Ends.eq_min (ends : Ends outcomes 0 left retries) :
    ((retries + 1 : Nat) : ℕ∞) = min (firstFinal outcomes) (left + 1 : Nat) := by
  have before := ends.before
  have last := ends.last
  simp only [Nat.zero_add] at before last
  apply le_antisymm
  · apply le_min
    · refine le_iInf₂ fun index final => ?_
      have reached : retries ≤ index := Nat.le_of_not_lt fun inside => final (before index inside)
      exact_mod_cast Nat.succ_le_succ reached
    · exact_mod_cast Nat.succ_le_succ ends.inside
  · rcases last with rfl | final
    · exact min_le_right _ _
    · refine (min_le_left _ _).trans ?_
      have first : firstFinal outcomes ≤ (retries + 1 : ℕ∞) := iInf₂_le retries final
      exact_mod_cast first

end

end Retry

namespace Remote

inductive Greeting (server : ServerSettings) (scope : String) (credentials : Credentials) :
    List (Exchange Wire) → Except Fault Client → Prop
  | unconnected (error : DriverError) : Greeting server scope credentials
      [⟨.connect server.address server.appName, .error error⟩] (.error error.fault)
  | refused (error : DriverError) : Greeting server scope credentials
      [⟨.connect server.address server.appName, .ok ()⟩, ⟨.login scope credentials, .error error⟩,
        ⟨.disconnect ⟨scope, credentials.username⟩, ()⟩] (.error error.fault)
  | pinged (error : DriverError) : Greeting server scope credentials
      [⟨.connect server.address server.appName, .ok ()⟩, ⟨.login scope credentials, .ok ()⟩,
        ⟨.command ⟨scope, credentials.username⟩ (.ping scope), .error error⟩,
        ⟨.disconnect ⟨scope, credentials.username⟩, ()⟩] (.error error.fault)
  | greeted (reply : Bson.Document) : Greeting server scope credentials
      [⟨.connect server.address server.appName, .ok ()⟩, ⟨.login scope credentials, .ok ()⟩,
        ⟨.command ⟨scope, credentials.username⟩ (.ping scope), .ok reply⟩]
      (.ok ⟨scope, credentials.username⟩)

section

variable {σ : Type} (server : ServerSettings) (handler : Handler Wire σ) (state : σ)
variable (scope : String) (credentials : Credentials)

theorem connectOnce_greeting :
    Greeting server scope credentials
      ((connectOnce server scope credentials).trace handler state)
      ((connectOnce server scope credentials).run handler state).value := by
  simp only [connectOnce, Program.trace, Program.run]
  generalize (handler (.connect server.address server.appName) state).2 = connected
  cases (handler (.connect server.address server.appName) state).1 with
  | error error => exact .unconnected error
  | ok reached =>
    simp only [Program.trace, Program.run]
    generalize (handler (.login scope credentials) connected).2 = entered
    cases (handler (.login scope credentials) connected).1 with
    | error error => exact .refused error
    | ok admitted =>
      simp only [Program.trace, Program.run]
      generalize (handler (.command ⟨scope, credentials.username⟩ (.ping scope)) entered).2 = pinged
      cases (handler (.command ⟨scope, credentials.username⟩ (.ping scope)) entered).1 with
      | error error => exact .pinged error
      | ok reply => exact .greeted reply

end

section

variable {σ : Type} {server : ServerSettings} {handler : Handler Wire σ} {state : σ}
variable {scope : String} {credentials : Credentials} {client : Client}
variable {error : DriverError}
variable {exchanges before after : List (Exchange Wire)} {outcome : Except Fault Client}

theorem Greeting.of_rejected (greeting : Greeting server scope credentials exchanges outcome)
    (split : exchanges = before ++ ⟨.command client (.ping scope), .error error⟩ :: after) :
    before = [⟨.connect server.address server.appName, .ok ()⟩,
        ⟨.login scope credentials, .ok ()⟩] ∧
      after = [⟨.disconnect client, ()⟩] ∧ outcome = .error error.fault := by
  cases greeting with
  | unconnected | refused | greeted => simp [List.cons_eq_append_iff] at split
  | pinged error =>
    obtain ⟨rfl, ⟨rfl, rfl⟩, rfl⟩ := by simpa [List.cons_eq_append_iff] using split
    exact ⟨rfl, rfl, rfl⟩

def openingFrom (server : ServerSettings) (scope : String) (credentials : Credentials)
    (limit : Nat) (interval : UInt64) (number left : Nat) : Program Wire (Except Fault Client) :=
  Retry.attemptFrom (connectOnce server scope credentials) (fun ms => .ask (I := Wire) (.pause ms))
    limit interval number left

/-- A client whose ping failed with an error is dismissed: all that follows is the disconnection,
and the error is what the attempts come to. If no pause came before, this was the first attempt. -/
structure Dismissed (server : ServerSettings) (scope : String) (credentials : Credentials)
    (client : Client) (error : DriverError) (before after : List (Exchange Wire))
    (outcome : Except Fault Client) : Prop where
  after : after = [⟨.disconnect client, ()⟩]
  outcome : outcome = .error error.fault
  first : (∀ ms, ⟨.pause ms, ()⟩ ∉ before) →
    before = [⟨.connect server.address server.appName, .ok ()⟩, ⟨.login scope credentials, .ok ()⟩]

theorem Dismissed.paused {passed : List (Exchange Wire)} {interval : UInt64}
    (rest : Dismissed server scope credentials client error passed after outcome) :
    Dismissed server scope credentials client error
      (exchanges ++ ⟨.pause interval, ()⟩ :: passed) after outcome where
  after := rest.after
  outcome := rest.outcome
  first := fun unpaused =>
    absurd (List.mem_append_right _ List.mem_cons_self) (unpaused interval)

variable {limit number left : Nat} {interval : UInt64}

theorem dismissed_of_last
    (last : left = 0 ∨
      ¬Retry.Unavailable ((connectOnce server scope credentials).run handler state).value)
    (split : (openingFrom server scope credentials limit interval number left).trace handler state =
      before ++ ⟨.command client (.ping scope), .error error⟩ :: after) :
    Dismissed server scope credentials client error before after
      ((openingFrom server scope credentials limit interval number left).run handler
        state).value := by
  obtain ⟨trace, run⟩ := Retry.attemptFrom_last last
  have greeting := connectOnce_greeting server handler state scope credentials
  obtain ⟨first, after, outcome⟩ := greeting.of_rejected (trace.symm.trans split)
  refine ⟨after, ?_, fun _ => first⟩
  exact (congrArg Run.value run).trans outcome

theorem dismissed_of_rejected (final : error.faultKind ≠ .unavailable)
    (split : (openingFrom server scope credentials limit interval number left).trace handler state =
      before ++ ⟨.command client (.ping scope), .error error⟩ :: after) :
    Dismissed server scope credentials client error before after
      ((openingFrom server scope credentials limit interval number left).run handler
        state).value := by
  induction left generalizing number state before with
  | zero => exact dismissed_of_last (.inl rfl) split
  | succ left ih =>
    by_cases unavailable :
        Retry.Unavailable ((connectOnce server scope credentials).run handler state).value
    · obtain ⟨fault, failed, kind⟩ := unavailable
      obtain ⟨trace, run⟩ := Retry.attemptFrom_again failed kind
      have value := congrArg Run.value run
      rcases List.append_eq_append_iff.1 (trace.symm.trans split) with
        ⟨passed, rfl, later⟩ | ⟨rest, first, later⟩
      · cases passed with
        | nil => cases (List.cons.inj later).1
        | cons paused passed =>
          obtain ⟨rfl, behind⟩ := List.cons.inj later
          exact value ▸ (ih behind).paused
      · cases rest with
        | nil => cases (List.cons.inj later).1
        | cons found rest =>
          obtain ⟨rfl, -⟩ := List.cons.inj later
          have greeting := connectOnce_greeting server handler state scope credentials
          obtain ⟨-, -, outcome⟩ := greeting.of_rejected first
          obtain rfl := Except.error.inj (failed.symm.trans outcome)
          exact absurd kind final
    · exact dismissed_of_last (.inr unavailable) split

end

end Remote

/-- The attempts on any stream of outcomes end with the first outcome that is not unavailability, or
with the last attempt that is allowed, and their last outcome is the result; between two of them
there is one pause. The number of an attempt stays within the limit, and so within its word. A
session is opened by such attempts, and a server that answers a ping with an error code ends
them. -/
theorem connections_are_tried_within_bounds :
    (∀ (α : Type) (outcomes : Nat → Except Fault α) (attempts : UInt32) (interval : UInt64),
      let limit := max 1 attempts.toNat
      let tried := Retry.bare α attempts interval
      ∃ retries : Nat,
        ((retries + 1 : Nat) : ℕ∞) = min (Retry.firstFinal outcomes) limit ∧
        tried.trace Retry.Timeline.handler { outcomes } =
          Retry.tape outcomes interval 0 retries ∧
        tried.run Retry.Timeline.handler { outcomes } =
          ⟨outcomes retries, Retry.notes outcomes limit interval 0 retries,
            { outcomes, attempts := retries + 1, elapsed := retries * interval.toNat }⟩ ∧
        (∀ index fault, outcomes index = .error fault → fault.kind ≠ .unavailable →
          retries ≤ index) ∧
        ∀ event ∈ Retry.notes outcomes limit interval 0 retries, ∀ number,
          Retry.numberIn event = some number → number ≤ limit) ∧
    (∀ (I : Interface) (α : Type) (connect : Program I (Except Fault α))
      (pause : UInt64 → Program I Unit) (attempts : UInt32) (interval : UInt64),
      retry connect pause attempts interval =
        Retry.countedFrom connect pause (max 1 attempts) interval 1) ∧
    ∀ (σ : Type) (server : ServerSettings) (handler : Handler Remote.Wire σ) (state : σ)
      (scope : String) (credentials : Credentials) (client : Remote.Client)
      (before after : List (Exchange Remote.Wire)) (code : Int32) (codeName message : String),
      let opening := Remote.means server (.openSession scope credentials)
      let error : Remote.DriverError := .command code codeName message
      opening.trace handler state =
          before ++ ⟨.command client (.ping scope), .error error⟩ :: after →
        error.faultKind ≠ .unavailable ∧
        Remote.Dismissed server scope credentials client error before after
          (opening.run handler state).value := by
  refine ⟨?_, ?_, ?_⟩
  · intro α outcomes attempts interval limit tried
    obtain ⟨retries, made⟩ :=
      Retry.exists_retries limit interval (limit - 1) ({ outcomes } : Retry.Timeline α)
    have total : limit - 1 + 1 = limit := Nat.sub_add_cancel (Nat.le_max_left 1 _)
    refine ⟨retries, ?_, made.trace, ?_, ?_, ?_⟩
    · rw [made.ends.eq_min, total]
    · refine made.run.trans ?_
      simp only [Retry.Timeline.spent, Nat.zero_add]
    · intro index fault failed other
      by_contra followed
      obtain ⟨found, same, unavailable⟩ := made.ends.before index (Nat.lt_of_not_le followed)
      simp only [Nat.zero_add] at same
      obtain rfl := Except.error.inj (failed.symm.trans same)
      exact other unavailable
    · intro event member number told
      have bound := Retry.number_le_of_mem_notes member told
      have inside := made.ends.inside
      omega
  · intro I α connect pause attempts interval
    exact Retry.retry_eq_countedFrom connect pause attempts interval
  · intro σ server handler state scope credentials client before after code codeName message
      opening error split
    have final : error.faultKind ≠ .unavailable := by
      intro unavailable
      have retryable : (Remote.faultOfCode code message).isRetryable = true :=
        Retry.isRetryable_iff.2 unavailable
      rw [Remote.faultOfCode_not_retryable] at retryable
      cases retryable
    exact ⟨final, Remote.dismissed_of_rejected final split⟩

/-- Lets everybody in and answers every command with the code of a missing right. -/
def Remote.denying : Handler Remote.Wire Unit
  | .connect .., () => (.ok (), ())
  | .login .., () => (.ok (), ())
  | .command .., () => (.error (.command 13 "" "not allowed"), ())
  | .disconnect _, () => ((), ())
  | .pause _, () => ((), ())

/-- A datastore that is up at the third attempt, and then refuses the login, and a server that
denies the ping. -/
theorem refusals_are_not_repeated :
    let outcomes : Nat → Except Fault Unit := fun index =>
      if index < 2 then .error ⟨.unavailable, "starting"⟩
      else .error ⟨.authenticationFailed, "wrong password"⟩
    let opening := Remote.means Settings.sample.server (.openSession "admin" ⟨"root", "secret"⟩)
    (∃ retries ≤ 2, ((Retry.bare Unit 5 500).run Retry.Timeline.handler { outcomes }).value =
      outcomes retries) ∧
    (opening.run Remote.denying ()).value =
      .error (Remote.DriverError.command 13 "" "not allowed").fault := by
  intro outcomes opening
  obtain ⟨streams, -, openings⟩ := connections_are_tried_within_bounds
  constructor
  · obtain ⟨retries, -, -, run, last, -⟩ := streams Unit outcomes 5 500
    refine ⟨retries, last 2 ⟨.authenticationFailed, "wrong password"⟩ rfl nofun, ?_⟩
    exact congrArg Run.value run
  · have exchanged : opening.trace Remote.denying () =
        [⟨.connect Settings.sample.server.address Settings.sample.server.appName, .ok ()⟩,
          ⟨.login "admin" ⟨"root", "secret"⟩, .ok ()⟩] ++
        ⟨.command ⟨"admin", "root"⟩ (.ping "admin"),
          .error (.command 13 "" "not allowed")⟩ :: [⟨.disconnect ⟨"admin", "root"⟩, ()⟩] := by
      refine (Retry.attemptFrom_last (.inr ?_)).1
      rintro ⟨fault, failed, unavailable⟩
      obtain rfl : (Remote.DriverError.command 13 "" "not allowed").fault = fault :=
        Except.error.inj failed
      cases unavailable
    exact (openings _ _ _ _ _ _ _ _ _ 13 "" "not allowed" exchanged).2.outcome

end Provision
