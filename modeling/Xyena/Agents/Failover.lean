import Mathlib.Data.Int.CardIntervalMod
import Mathlib.Data.List.GetD
import Mathlib.Data.List.Nodup
import Xyena.Foundation.Program
import Xyena.Foundation.PyText
import Xyena.Foundation.Runs

/-!
# Requests with several keys

`NvidiaFailoverTransport` of `packages/agents/runtime.py` with the keys of
`packages/config/settings.py`. A request is tried with one key after the other until
a reply does not call for another key. A reply that does is read to its end first,
and an error there is raised at once. The first key moves on by one from request to
request.
-/

namespace Xyena.Agents.Failover

open Xyena.Foundation

/-! ## Keys -/

/-- `text.split(",")`, by characters. -/
def splitCommas : List Char → List (List Char)
  | [] => [[]]
  | char :: rest =>
    if char = ',' then [] :: splitCommas rest
    else
      match splitCommas rest with
      | [] => [[char]]
      | part :: parts => (char :: part) :: parts

/-- `nvidia_nim_keys`, of the configured text. -/
def nvidiaNimKeys (configured : Option String) : List String :=
  match configured with
  | none => []
  | some text =>
    (((splitCommas text.toList).map fun part ↦ strip (String.ofList part)).filter fun value ↦
      value != "").eraseDups

example : nvidiaNimKeys (some "a, b,,a ,c") = ["a", "b", "c"] := by decide

/-- Keys that a transport is built with: at least one, and no key twice. -/
structure KeyPool where
  keys : List String
  keys_nonempty : 0 < keys.length
  keys_nodup : keys.Nodup

/-! ## Requests -/

/-- The headers of `httpx`: a copy in which a header is set, and the value of a header. -/
structure HeaderApi (Headers : Type) where
  set : Headers → String → String → Headers
  get : Headers → String → Option String
  get_set : ∀ headers name value, get (set headers name value) name = some value

example : HeaderApi (List (String × String)) where
  set headers name value := (name, value) :: headers.filter fun header ↦ header.1 != name
  get headers name := (headers.find? fun header ↦ header.1 == name).map Prod.snd
  get_set headers name value := by simp

structure Request (Headers Extensions : Type) where
  method : String
  url : String
  headers : Headers
  body : String
  extensions : Extensions

/-- An exception of the network. The inner transport has errors of its own, which are caught. -/
inductive Failure where
  | transport (text : String)
  | other (text : String)
deriving DecidableEq, Repr

/-- A response. `unread` is what is raised when it is read to its end and closed, if anything is. -/
structure Response where
  statusCode : Nat
  content : String
  unread : Option Failure := none

/-- What the inner transport returns or raises. -/
abbrev Reply := Except Failure Response

inductive Outcome where
  | returned (response : Response)
  | raised (failure : Failure)
  | zeroDivision
  | emptyPool

section Loop

variable {Headers Extensions : Type} (api : HeaderApi Headers)

/-- One attempt of a request. -/
def attempt (request : Request Headers Extensions) (key : String) : Request Headers Extensions :=
  { request with headers := api.set request.headers "authorization" ("Bearer " ++ key) }

def retryStatuses : List Nat := [401, 403, 408, 409, 429, 500, 502, 503, 504]

/-- The loop of `handle_async_request`, with `remaining` keys to go. -/
def tryFrom (keys : List String) (request : Request Headers Extensions) (start : Nat) :
    Nat → Nat → Option String → Program (Request Headers Extensions) (fun _ ↦ Reply) Outcome
  | 0, _, some error => .ret (.raised (.transport error))
  | 0, _, none => .ret .emptyPool
  | remaining + 1, offset, lastError =>
    .ask (attempt api request (keys.getD ((start + offset) % keys.length) "")) fun reply : Reply ↦
      match reply with
      | .error (.transport error) =>
        if offset + 1 < keys.length then tryFrom keys request start remaining (offset + 1) (some error)
        else .ret (.raised (.transport error))
      | .error (.other error) => .ret (.raised (.other error))
      | .ok response =>
        if response.statusCode ∉ retryStatuses ∨ offset + 1 = keys.length then .ret (.returned response)
        else
          match response.unread with
          | some failure => .ret (.raised failure)
          | none => tryFrom keys request start remaining (offset + 1) lastError

/-- `handle_async_request`. Python has no remainder by zero. -/
def handleAsyncRequest (keys : List String) (count : Nat) (request : Request Headers Extensions) :
    Program (Request Headers Extensions) (fun _ ↦ Reply) Outcome :=
  if keys.length = 0 then .ret .zeroDivision
  else tryFrom api keys request (count % keys.length) keys.length 0 none

end Loop

abbrev Oracle (Headers Extensions : Type) := Program.Oracle (Request Headers Extensions) fun _ ↦ Reply

abbrev Attempts (Headers Extensions : Type) := List (Event (Request Headers Extensions) fun _ ↦ Reply)

/-- A request with the answers of the network. -/
abbrev Call (Headers Extensions : Type) := Request Headers Extensions × Oracle Headers Extensions

abbrev Record (Headers Extensions : Type) :=
  Entry Nat (Call Headers Extensions) (Outcome × Attempts Headers Extensions)

/-- A transport counts its requests. -/
def transport {Headers Extensions : Type} (api : HeaderApi Headers) (keys : List String) :
    Machine Nat (Call Headers Extensions) (Outcome × Attempts Headers Extensions) where
  step count call := ((handleAsyncRequest api keys count call.1).exec call.2 [], count + 1)

/-! ## What the source promises -/

/-- The replies after which the next key is tried. -/
inductive CallsForNext : Reply → Prop
  | failed (error : String) : CallsForNext (.error (.transport error))
  | refused (response : Response) (hstatus : response.statusCode ∈ retryStatuses)
      (hread : response.unread = none) : CallsForNext (.ok response)

/-- What a request comes to when it ends with a reply, which may be that of the last key. -/
inductive Ends (final : Prop) : Reply → Outcome → Prop
  | raised (failure : Failure) (hother : ∀ error, failure = .transport error → final) :
      Ends final (.error failure) (.raised failure)
  | returned (response : Response) (hdone : response.statusCode ∉ retryStatuses ∨ final) :
      Ends final (.ok response) (.returned response)
  | unread (response : Response) (failure : Failure) (hstatus : response.statusCode ∈ retryStatuses)
      (hunread : response.unread = some failure) : Ends final (.ok response) (.raised failure)

section Runs

variable {Headers Extensions : Type} (api : HeaderApi Headers) (keys : List String)

/-- The attempt of a request with the key at an offset. -/
def attemptAt (count : Nat) (request : Request Headers Extensions) (offset : Nat) :
    Request Headers Extensions :=
  attempt api request (keys.getD ((count + offset) % keys.length) "")

end Runs

/-! ## Keys are distinct -/

theorem nodup_eraseDups {Value : Type} [BEq Value] [LawfulBEq Value] (values : List Value) :
    values.eraseDups.Nodup := by
  induction hlength : values.length using Nat.strong_induction_on generalizing values with
  | _ length ih =>
    cases values with
    | nil => exact List.nodup_nil
    | cons value rest =>
      rw [List.eraseDups_cons, List.nodup_cons]
      refine ⟨?_, ih _ ?_ _ rfl⟩
      · rw [List.mem_eraseDups]
        simp
      · have hfilter := List.length_filter_le (fun other ↦ !other == value) rest
        rw [← hlength, List.length_cons]
        omega

theorem nvidiaNimKeys_nodup (configured : Option String) : (nvidiaNimKeys configured).Nodup := by
  unfold nvidiaNimKeys
  split
  · exact List.nodup_nil
  · exact nodup_eraseDups _

/-- `_model` builds no transport without keys. -/
def KeyPool.of (configured : Option String) : Option KeyPool :=
  if h : 0 < (nvidiaNimKeys configured).length then
    some
      { keys := nvidiaNimKeys configured
        keys_nonempty := h
        keys_nodup := nvidiaNimKeys_nodup configured }
  else none

/-! ## The loop -/

/-- What the loop does from an offset on, after the events before it. -/
def Walked {Headers Extensions : Type} (api : HeaderApi Headers) (keys : List String)
    (request : Request Headers Extensions) (start offset remaining : Nat)
    (trace : Attempts Headers Extensions) (result : Outcome × Attempts Headers Extensions) : Prop :=
  ∃ used events, 0 < used ∧ used ≤ remaining ∧ result.2 = trace ++ events ∧
    events.map Event.effect = (List.range' offset used).map (attemptAt api keys start request) ∧
    (∀ event ∈ events.dropLast, CallsForNext event.reply) ∧
    ∃ event ∈ events.getLast?, Ends (used = remaining) event.reply result.1

theorem Ends.congr {first second : Prop} {reply : Reply} {outcome : Outcome} (h : Ends first reply outcome)
    (hsame : first → second) : Ends second reply outcome := by
  cases h with
  | raised failure hother => exact .raised failure fun error herror ↦ hsame (hother error herror)
  | returned response hdone => exact .returned response (hdone.imp_right hsame)
  | unread response failure hstatus hunread => exact .unread response failure hstatus hunread

section Loop

variable {Headers Extensions : Type} {api : HeaderApi Headers} {keys : List String}
  {request : Request Headers Extensions} {start : Nat}

/-- The loop ends with a reply. -/
theorem Walked.ends {offset remaining : Nat} {trace : Attempts Headers Extensions} {reply : Reply}
    {outcome : Outcome} (h : Ends (remaining = 0) reply outcome) :
    Walked api keys request start offset (remaining + 1) trace
      (outcome, trace ++ [⟨attemptAt api keys start request offset, reply⟩]) := by
  refine ⟨1, [⟨attemptAt api keys start request offset, reply⟩], Nat.one_pos, by omega, rfl, rfl, by simp,
    _, rfl, h.congr ?_⟩
  rintro rfl
  rfl

/-- The loop goes on with the next key. -/
theorem Walked.next {offset remaining : Nat} {trace : Attempts Headers Extensions} {reply : Reply}
    {result : Outcome × Attempts Headers Extensions} (hnext : CallsForNext reply)
    (h : Walked api keys request start (offset + 1) remaining
      (trace ++ [⟨attemptAt api keys start request offset, reply⟩]) result) :
    Walked api keys request start offset (remaining + 1) trace result := by
  obtain ⟨used, events, hused, hmost, htrace, heffects, hearlier, event, hevent, hends⟩ := h
  have hnonempty : events ≠ [] := by
    rintro rfl
    cases hevent
  refine ⟨used + 1, ⟨attemptAt api keys start request offset, reply⟩ :: events, by omega, by omega, ?_, ?_,
    ?_, event, ?_, hends.congr ?_⟩
  · rw [htrace, List.append_assoc]
    rfl
  · rw [List.map_cons, heffects, List.range'_succ, List.map_cons]
  · rw [List.dropLast_cons_of_ne_nil hnonempty]
    exact List.forall_mem_cons.mpr ⟨hnext, hearlier⟩
  · rw [List.getLast?_cons_of_ne_nil hnonempty]
    exact hevent
  · rintro rfl
    rfl

end Loop

section Transport

variable {Headers Extensions : Type} (api : HeaderApi Headers) (pool : KeyPool)

end Transport

/-! ## Runs of a transport -/

end Xyena.Agents.Failover
