import SheetIntake.Backend.Exchange
import SheetIntake.Batch.Serial
import SheetIntake.Proofs.Batch.Rows
import SheetIntake.Proofs.Batch.Shortening

/-! # What failed rows say

    The body of a refusal says one thing, whatever it is: what the first of three members says
    that is not silent, else the body itself, else that there is none (`says_iff`).

    The message of a failed row starts with what has happened, so there is something in it even
    if the backend has said nothing (`not_isBlank_message`).  It is therefore never lost when it
    is shortened, and every failed row of every batch carries one. -/

namespace SheetIntake.Backend

/-! ## The members of a body -/

/-- Nothing is said by a null, nor by a blank text. -/
inductive Silent : Json → Prop where
  | null : Silent .null
  | blank {s : String} (h : Text.isBlank s = true) : Silent (.str s)

/-- How a value is put into words: a text without white space around it, all else as JSON. -/
def wording : Json → String
  | .str s => Text.trim s
  | j => j.text

/-- The body is a JSON object, and this is its member with a key. -/
def HasMember (body key : String) (value : Json) : Prop :=
  ∃ members, Json.parse? body = some (.obj members) ∧
    (Json.obj members).member? key = some value

/-- Nothing is said under a key: there is no such member, or it is silent. -/
def SilentAt (body key : String) : Prop := ∀ value, HasMember body key value → Silent value

theorem messageIn_eq_none {j : Json} : messageIn j = none ↔ Silent j := by
  constructor
  · intro h
    cases j with
    | null => exact .null
    | str s =>
      refine .blank ?_
      by_contra hfull
      simp [messageIn, Text.trimmed?, hfull] at h
    | _ => cases h
  · rintro (_ | hblank)
    · rfl
    · exact if_pos hblank

theorem messageIn_of_not_silent {j : Json} (h : ¬Silent j) : messageIn j = some (wording j) := by
  cases j with
  | null => exact absurd .null h
  | str s => exact if_neg fun hblank => h (.blank hblank)
  | _ => rfl

theorem messageIn_eq_some {j : Json} {said : String} :
    messageIn j = some said ↔ ¬Silent j ∧ wording j = said := by
  constructor
  · intro h
    have hspeaks : ¬Silent j := by
      rw [← messageIn_eq_none, h]
      exact Option.some_ne_none said
    rw [messageIn_of_not_silent hspeaks] at h
    exact ⟨hspeaks, Option.some.inj h⟩
  · rintro ⟨hspeaks, rfl⟩
    exact messageIn_of_not_silent hspeaks

/-- What is said under a key. -/
def said? (body key : String) : Option String :=
  (Json.parse? body).bind fun j => (j.member? key).bind messageIn

theorem bind_messageOf (body : String) :
    (Json.parse? body).bind messageOf = messageKeys.findSome? (said? body) := by
  unfold said?
  cases Json.parse? body with
  | none => rfl
  | some j => rfl

theorem said?_eq_some {body key said : String} :
    said? body key = some said ↔
      ∃ value, HasMember body key value ∧ ¬Silent value ∧ wording value = said := by
  rw [said?, Option.bind_eq_some_iff]
  constructor
  · rintro ⟨j, hparse, hsaid⟩
    obtain ⟨value, hvalue, hmessage⟩ := Option.bind_eq_some_iff.1 hsaid
    -- Only an object has members.
    cases j with
    | obj members => exact ⟨value, ⟨members, hparse, hvalue⟩, messageIn_eq_some.1 hmessage⟩
    | _ => cases hvalue
  · rintro ⟨value, ⟨members, hparse, hvalue⟩, hmessage⟩
    exact ⟨_, hparse, Option.bind_eq_some_iff.2 ⟨value, hvalue, messageIn_eq_some.2 hmessage⟩⟩

theorem said?_eq_none {body key : String} : said? body key = none ↔ SilentAt body key := by
  rw [Option.eq_none_iff_forall_ne_some]
  constructor
  · -- A member that is not silent would have been put into words.
    intro h value hvalue
    by_contra hspeaks
    exact h _ (said?_eq_some.2 ⟨value, hvalue, hspeaks, rfl⟩)
  · intro h said hsaid
    obtain ⟨value, hvalue, hspeaks, -⟩ := said?_eq_some.1 hsaid
    exact hspeaks (h value hvalue)

/-! ## What a body says -/

/-- What the body of a refusal says. -/
inductive Says (body : String) : String → Prop where
  /-- A member speaks, and those before it are silent. -/
  | member {before after : List String} {key : String} {value : Json}
      (order : ["detail", "error", "message"] = before ++ key :: after)
      (silent : ∀ k ∈ before, SilentAt body k) (h : HasMember body key value)
      (speaks : ¬Silent value) : Says body (wording value)
  /-- No member speaks, and the body stands for itself. -/
  | whole (silent : ∀ k ∈ ["detail", "error", "message"], SilentAt body k)
      (full : Text.isBlank body = false) : Says body (Text.trim body)
  /-- There is nothing in the body. -/
  | nothing (silent : ∀ k ∈ ["detail", "error", "message"], SilentAt body k)
      (blank : Text.isBlank body = true) : Says body "Empty response body"

theorem extractMessage_of_some {body said : String}
    (h : messageKeys.findSome? (said? body) = some said) : extractMessage body = said := by
  rw [extractMessage, bind_messageOf, h]
  rfl

theorem extractMessage_of_none {body : String} (h : messageKeys.findSome? (said? body) = none) :
    extractMessage body = (Text.trimmed? body).getD "Empty response body" := by
  rw [extractMessage, bind_messageOf, h]
  rfl

theorem findSome?_said?_eq_none {body : String} :
    messageKeys.findSome? (said? body) = none ↔
      ∀ k ∈ ["detail", "error", "message"], SilentAt body k := by
  rw [List.findSome?_eq_none_iff]
  exact forall₂_congr fun key _ => said?_eq_none

theorem says_extractMessage (body : String) : Says body (extractMessage body) := by
  cases hsaid : messageKeys.findSome? (said? body) with
  | some said =>
    -- The key is the first under which something is said.
    rw [extractMessage_of_some hsaid]
    obtain ⟨before, key, after, horder, hkey, hbefore⟩ := List.findSome?_eq_some_iff.1 hsaid
    obtain ⟨value, hvalue, hspeaks, rfl⟩ := said?_eq_some.1 hkey
    exact .member horder (fun k hk => said?_eq_none.1 (hbefore k hk)) hvalue hspeaks
  | none =>
    rw [extractMessage_of_none hsaid, Text.trimmed?]
    have hsilent := findSome?_said?_eq_none.1 hsaid
    cases hblank : Text.isBlank body with
    | true => exact .nothing hsilent hblank
    | false => exact .whole hsilent hblank

theorem Says.extractMessage_eq {body said : String} (h : Says body said) :
    extractMessage body = said := by
  cases h with
  | member order silent h speaks =>
    refine extractMessage_of_some (List.findSome?_eq_some_iff.2 ⟨_, _, _, order, ?_, ?_⟩)
    · exact said?_eq_some.2 ⟨_, h, speaks, rfl⟩
    · intro k hk
      exact said?_eq_none.2 (silent k hk)
  | whole silent full =>
    rw [extractMessage_of_none (findSome?_said?_eq_none.2 silent), Text.trimmed?, full]
    rfl
  | nothing silent blank =>
    rw [extractMessage_of_none (findSome?_said?_eq_none.2 silent), Text.trimmed?, blank]
    rfl

/-- A body says one thing, the message that is taken from it. -/
theorem says_iff {body said : String} : Says body said ↔ said = extractMessage body := by
  constructor
  · intro h
    exact h.extractMessage_eq.symm
  · rintro rfl
    exact says_extractMessage body

/-- A blank text and a null are passed over, and a list is given as JSON. -/
example :
    extractMessage "\x7b\"detail\": \" \", \"error\": null, \"message\": [1]\x7d" = "[1]" := by
  decide +kernel

end SheetIntake.Backend

namespace SheetIntake

/-! ## Messages of failed rows -/

/-- Whatever has happened, the message names it first. -/
theorem RecordError.not_isBlank_message (e : RecordError) : Text.isBlank e.message = false := by
  cases e with
  | rejected status said =>
    -- What the backend has said may be blank; what stands before it is not.
    change Text.isBlank ("HTTP " ++ toString status ++ ": " ++ said) = false
    simp only [Text.isBlank_append]
    rfl
  | transport detail =>
    rw [RecordError.message, Text.isBlank_append]
    rfl
  | timeout => rfl

theorem RowResult.failsWith_message (row : Nat) (e : RecordError) :
    (RowResult.of row (Outcome.ofAnswer (.error e))).FailsWith row e.message :=
  failsWith_of_failed row e.not_isBlank_message

namespace Batch

variable {timeout : Nat} {b : Behaviour}

theorem Behaviour.outcomeWithin_of_late (late : ∀ d, b.delay = some d → timeout < d) :
    b.outcomeWithin timeout = Outcome.ofAnswer (.error .timeout) := by
  refine if_neg ?_
  rw [Option.any_eq_true]
  rintro ⟨d, hd, hprompt⟩
  have hlate := late d hd
  have hle : d ≤ timeout := of_decide_eq_true hprompt
  omega

/-- Every call ends with an answer; one that takes too long is an error like any other. -/
theorem Behaviour.exists_outcomeWithin (timeout : Nat) (b : Behaviour) :
    ∃ answer, b.outcomeWithin timeout = Outcome.ofAnswer answer := by
  cases hprompt : b.delay.any (· ≤ timeout) with
  | true => exact ⟨b.answer, if_pos hprompt⟩
  | false => exact ⟨.error .timeout, if_neg (by simp [hprompt])⟩

theorem failsWith_of_mem_failed {α : Type} {backend : Backend} {payloads : List α} {x : RowResult}
    (h : x ∈ (Summary.ofResults (ownResults timeout backend payloads)).failed) :
    ∃ e : RecordError, x.FailsWith x.row e.message := by
  obtain ⟨hmem, hfailed⟩ := Summary.mem_failed.1 h
  obtain ⟨i, hi, rfl⟩ := List.mem_mapIdx.1 hmem
  obtain ⟨answer, hanswer⟩ := (backend i).exists_outcomeWithin timeout
  rw [hanswer] at hfailed ⊢
  cases answer with
  | ok id => cases hfailed
  | error e => exact ⟨e, RowResult.failsWith_message i e⟩

end Batch

/-! ## Every failure -/

namespace Backend

/-- Every way a row can fail leaves it with a message. -/
structure CarriesMessages (row : Nat) : Prop where
  /-- A refusal is told by its status and by what its body says. -/
  refusal : ∀ r : Refusal, ∃ said, (∀ other, Says r.body other ↔ other = said) ∧
    (RowResult.of row (.ofAnswer (.error r.toRecordError))).FailsWith row
      s!"HTTP {r.status}: {said}"
  /-- An answer without success is such a refusal. -/
  answer : ∀ r : Response, r.isSuccess = false →
    (Link.answered r).answer = .error (Refusal.toRecordError { status := r.status, body := r.text })
  transport : ∀ detail,
    (RowResult.of row (.ofAnswer (.error (.transport detail)))).FailsWith row
      ("Request failed: " ++ detail)
  /-- The answer says that the time was up. -/
  timeout : (RowResult.of row (.ofAnswer (.error .timeout))).FailsWith row "Request timed out"
  /-- The batch does not wait any longer. -/
  late : ∀ (limit : Nat) (b : Batch.Behaviour), (∀ d, b.delay = some d → limit < d) →
    (RowResult.of row (b.outcomeWithin limit)).FailsWith row "Request timed out"
  /-- There are no other failures in a batch. -/
  batch : ∀ (α : Type) (limit : Nat) (backend : Batch.Backend) (payloads : List α),
    ∀ x ∈ (Summary.ofResults (Batch.ownResults limit backend payloads)).failed,
      ∃ e : RecordError, x.FailsWith x.row e.message

/-- Every failed row carries a message with something in it.  It is short, and has been cut only
if it had to be; that of a refusal gives the status and what the body says. -/
theorem failed_rows_carry_messages (row : Nat) : CarriesMessages row where
  refusal r := ⟨extractMessage r.body, fun _ => says_iff,
    RowResult.failsWith_message row r.toRecordError⟩
  answer r h := by
    rw [Link.answer, h]
    rfl
  transport detail := RowResult.failsWith_message row (.transport detail)
  timeout := RowResult.failsWith_message row .timeout
  late limit b h := by
    rw [b.outcomeWithin_of_late h]
    exact RowResult.failsWith_message row .timeout
  batch α limit backend payloads x hx := Batch.failsWith_of_mem_failed hx

end Backend

end SheetIntake
