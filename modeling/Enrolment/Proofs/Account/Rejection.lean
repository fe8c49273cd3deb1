import Enrolment.Account.Client
import Enrolment.Proofs.Json.Canonical
import Enrolment.Proofs.Run.Alone
import Enrolment.Proofs.Text.Blank

/-!
What a rejection says. The message is looked for at six places of a body that is JSON, then it is
the body itself, then the phrase for the status or its number; so it is never blank, and a row that
is rejected shows just this message.
-/

namespace Enrolment
namespace Json
namespace Value

/-- The value at a place of nested objects, by the keys on the way to it. Of several members with
one key the last counts. -/
inductive At : List String → Value → Value → Prop
  | here (value : Value) : At [] value value
  | inside {key : String} {place : List String} {members : List (String × Value)}
      {item value : Value} (hkey : members.reverse.lookup key = some item)
      (hitem : At place item value) : At (key :: place) (object members) value

theorem at_nil_iff {value item : Value} : At [] value item ↔ value = item := by
  constructor
  · rintro ⟨⟩
    rfl
  · rintro rfl
    exact .here value

theorem at_cons_iff {key : String} {place : List String} {value item : Value} :
    At (key :: place) value item ↔ ∃ members found, value = object members ∧
      members.reverse.lookup key = some found ∧ At place found item := by
  constructor
  · rintro ⟨⟩
    exact ⟨_, _, rfl, ‹_›, ‹_›⟩
  · rintro ⟨members, found, rfl, hkey, hitem⟩
    exact .inside hkey hitem

/-- The first of the places at which the value has a string that is not blank has the given one. -/
inductive TellsFirst (value : Value) : List (List String) → String → Prop
  | here {place : List String} {places : List (List String)} {text : String}
      (hat : At place value (string text)) (htext : Text.allBlank text.toList = false) :
      TellsFirst value (place :: places) text
  | behind {place : List String} {places : List (List String)} {text : String}
      (hsilent : ∀ other, At place value (string other) → Text.allBlank other.toList = true)
      (h : TellsFirst value places text) : TellsFirst value (place :: places) text

theorem TellsFirst.not_blank {value : Value} {places : List (List String)} {text : String}
    (h : value.TellsFirst places text) : Text.allBlank text.toList = false := by
  induction h with
  | here _ htext => exact htext
  | behind _ _ ih => exact ih

end Value
end Json

namespace Client
open Json

section
variable {key : String} {place : List String} {places : List (List String)}
  {value written : Value} {text message : String}

theorem valueAt?_cons : valueAt? (key :: place) value =
    (value.get? key).bind (valueAt? place) := by
  rw [valueAt?, List.foldl_cons, Option.bind_some]
  cases value.get? key with
  | some item => rfl
  | none =>
      rw [Option.bind_none]
      induction place with
      | nil => rfl
      | cons key place ih => exact ih

theorem valueAt?_canonical : valueAt? place written.canonical = some value ↔
    ∃ item, Value.At place written item ∧ item.canonical = value := by
  induction place generalizing written with
  | nil => simp [valueAt?, Value.at_nil_iff]
  | cons key place ih =>
      rw [valueAt?_cons]
      simp only [Value.at_cons_iff]
      cases written with
      | null | bool _ | number _ | string _ | array _ => simp [Value.canonical, Value.get?]
      | object members =>
          have hget : (Value.object members).canonical.get? key =
              (members.reverse.lookup key).map Value.canonical :=
            Value.lookup_canonical members key
          rw [hget]
          cases hkey : members.reverse.lookup key with
          | none => simp [hkey]
          | some found => simp [hkey, ih]

/-- A string is its own canonical form, and nothing else has it. -/
theorem canonical_eq_string_iff : value.canonical = .string text ↔ value = .string text := by
  cases value <;> simp [Value.canonical]

theorem valueAt?_eq_string_iff : valueAt? place written.canonical = some (.string text) ↔
    Value.At place written (.string text) := by
  rw [valueAt?_canonical]
  constructor
  · rintro ⟨item, hitem, heq⟩
    rwa [canonical_eq_string_iff.1 heq] at hitem
  · intro hat
    exact ⟨_, hat, rfl⟩

theorem telling?_eq_some_iff : telling? value = some message ↔
    ∃ text, value = .string text ∧ Text.allBlank text.toList = false ∧
      Text.trimmed text = message := by
  cases value with
  | string text =>
      cases hblank : Text.allBlank text.toList <;> simp [telling?, Value.string?, hblank]
  | null | bool _ | number _ | array _ | object _ => simp [telling?, Value.string?]

/-- What is told at one place. -/
theorem tellingAt_eq_some_iff :
    (valueAt? place written.canonical).bind telling? = some message ↔
      ∃ text, Value.At place written (.string text) ∧ Text.allBlank text.toList = false ∧
        Text.trimmed text = message := by
  simp only [Option.bind_eq_some_iff, telling?_eq_some_iff]
  constructor
  · rintro ⟨_, hat, text, rfl, htext⟩
    exact ⟨text, valueAt?_eq_string_iff.1 hat, htext⟩
  · rintro ⟨text, hat, htext⟩
    exact ⟨_, valueAt?_eq_string_iff.2 hat, text, rfl, htext⟩

theorem findSome?_telling : (places.findSome? fun place =>
      (valueAt? place written.canonical).bind telling?) = some message ↔
    ∃ text, written.TellsFirst places text ∧ Text.trimmed text = message := by
  induction places with
  | nil =>
      rw [List.findSome?_nil]
      constructor
      · nofun
      · rintro ⟨_, ⟨⟩, _⟩
  | cons place places ih =>
      rw [List.findSome?_cons]
      split
      · next found hfound =>
          obtain ⟨first, hat, hfirst, heq⟩ := tellingAt_eq_some_iff.1 hfound
          constructor
          · intro hmessage
            exact ⟨first, .here hat hfirst, heq.trans (Option.some.inj hmessage)⟩
          · rintro ⟨text, htells, rfl⟩
            cases htells with
            | here hat htext =>
                rw [← hfound]
                exact tellingAt_eq_some_iff.2 ⟨text, hat, htext, rfl⟩
            | behind hsilent _ => simp [hsilent first hat] at hfirst
      · next hnone =>
          have hsilent : ∀ other, Value.At place written (.string other) →
              Text.allBlank other.toList = true := by
            intro other hat
            by_contra hother
            rw [tellingAt_eq_some_iff.2 ⟨other, hat, Bool.eq_false_iff.2 hother, rfl⟩] at hnone
            cases hnone
          rw [ih]
          constructor
          · rintro ⟨text, htells, heq⟩
            exact ⟨text, .behind hsilent htells, heq⟩
          · rintro ⟨text, htells, heq⟩
            cases htells with
            | here hat htext => simp [hsilent text hat] at htext
            | behind _ htells => exact ⟨text, htells, heq⟩

end

/-- What a body tells in JSON that is not nested too deeply. -/
def Told (body text : String) : Prop :=
  ∃ tree written, Spells body tree written ∧ tree.depth ≤ 127 ∧
    written.TellsFirst
      [["error", "message"], ["error"], ["detail", "error"], ["detail", "message"], ["detail"],
        ["message"]] text

/-- What a rejection with the given status and body says. -/
inductive Says (status : Nat) (body : String) : String → Prop
  | told {text : String} (h : Told body text) : Says status body (Text.trimmed text)
  | plain (hsilent : ∀ text, ¬Told body text) (hbody : Text.allBlank body.toList = false) :
      Says status body (Text.trimmed body)
  | phrase {phrase : String} (hsilent : ∀ text, ¬Told body text)
      (hblank : Text.allBlank body.toList = true) (hphrase : (status, phrase) ∈ Http.reasons) :
      Says status body phrase
  | number (hsilent : ∀ text, ¬Told body text) (hblank : Text.allBlank body.toList = true)
      (hnone : ∀ phrase, (status, phrase) ∉ Http.reasons) : Says status body (toString status)

section
variable {status : Nat} {body message : String}

theorem messageIn?_eq_some_iff : (Value.read body).bind messageIn? = some message ↔
    ∃ text, Told body text ∧ Text.trimmed text = message := by
  rw [Option.bind_eq_some_iff]
  constructor
  · rintro ⟨_, hread, hmessage⟩
    obtain ⟨tree, written, hspells, hdepth, rfl⟩ := read_eq_some_iff.1 hread
    obtain ⟨text, htells, heq⟩ := findSome?_telling.1 hmessage
    exact ⟨text, ⟨tree, written, hspells, hdepth, htells⟩, heq⟩
  · rintro ⟨text, ⟨tree, written, hspells, hdepth, htells⟩, heq⟩
    exact ⟨_, read_eq_some_iff.2 ⟨tree, written, hspells, hdepth, rfl⟩,
      findSome?_telling.2 ⟨text, htells, heq⟩⟩

theorem messageIn?_eq_none_iff : (Value.read body).bind messageIn? = none ↔
    ∀ text, ¬Told body text := by
  rw [Option.eq_none_iff_forall_ne_some]
  constructor
  · intro hnone text htold
    exact hnone _ (messageIn?_eq_some_iff.2 ⟨text, htold, rfl⟩)
  · intro hsilent message hmessage
    obtain ⟨text, htold, _⟩ := messageIn?_eq_some_iff.1 hmessage
    exact hsilent text htold

theorem reason_of_mem {phrase : String} (h : (status, phrase) ∈ Http.reasons) :
    Http.reason status = phrase := by
  have hall : ∀ entry ∈ Http.reasons, Http.reason entry.1 = entry.2 := by decide +kernel
  exact hall _ h

theorem reason_of_none (h : ∀ phrase, (status, phrase) ∉ Http.reasons) :
    Http.reason status = toString status := by
  have hnone : Http.reasons.lookup status = none := by
    rw [List.lookup_eq_none_iff]
    rintro ⟨other, phrase⟩ hmem
    rw [bne_iff_ne]
    rintro rfl
    exact h phrase hmem
  rw [Http.reason, hnone, Option.getD_none]

theorem says_iff : Says status body message ↔ rejectionMessage status body = message := by
  rw [rejectionMessage]
  constructor
  · intro hreason
    cases hreason with
    | told h => rw [messageIn?_eq_some_iff.2 ⟨_, h, rfl⟩]
    | plain hsilent hbody =>
        simp only [messageIn?_eq_none_iff.2 hsilent, hbody, Bool.false_eq_true, if_false]
    | phrase hsilent hblank hphrase =>
        simp only [messageIn?_eq_none_iff.2 hsilent, hblank, if_true, reason_of_mem hphrase]
    | number hsilent hblank hnone =>
        simp only [messageIn?_eq_none_iff.2 hsilent, hblank, if_true, reason_of_none hnone]
  · rintro rfl
    split
    · next message hmessage =>
        obtain ⟨text, htold, rfl⟩ := messageIn?_eq_some_iff.1 hmessage
        exact .told htold
    · next hnone =>
        have hsilent := messageIn?_eq_none_iff.1 hnone
        split
        · next hblank =>
            by_cases hphrase : ∃ phrase, (status, phrase) ∈ Http.reasons
            · obtain ⟨phrase, hphrase⟩ := hphrase
              rw [reason_of_mem hphrase]
              exact .phrase hsilent hblank hphrase
            · have hno := not_exists.1 hphrase
              rw [reason_of_none hno]
              exact .number hsilent hblank hno
        · next hbody => exact .plain hsilent (Bool.eq_false_iff.2 hbody)

theorem trimmed_eq_self {text : String} (hne : text.toList ≠ [])
    (htrim : Text.trim text.toList = text.toList) :
    Text.allBlank text.toList = false ∧ Text.trimmed text = text := by
  refine ⟨Bool.eq_false_iff.2 fun hblank => ?_, ?_⟩
  · rw [← Text.trim_eq_nil_iff, htrim] at hblank
    exact hne hblank
  · rw [Text.trimmed, htrim, String.ofList_toList]

/-- What a rejection says is not blank, and there are no blanks around it. -/
theorem Says.trimmed (h : Says status body message) :
    Text.allBlank message.toList = false ∧ Text.trimmed message = message := by
  have htrimmed : ∀ text : String, Text.allBlank text.toList = false →
      Text.allBlank (Text.trimmed text).toList = false ∧
        Text.trimmed (Text.trimmed text) = Text.trimmed text := by
    intro text htext
    have htoList : (Text.trimmed text).toList = Text.trim text.toList := String.toList_ofList
    apply trimmed_eq_self
    · rw [htoList, Ne, Text.trim_eq_nil_iff, htext]
      exact Bool.false_ne_true
    · rw [htoList, Text.trim_trim]
  cases h with
  | told h =>
      obtain ⟨_, _, _, _, htells⟩ := h
      exact htrimmed _ htells.not_blank
  | plain _ hbody => exact htrimmed _ hbody
  | phrase _ _ hphrase =>
      have hall : ∀ entry ∈ Http.reasons, entry.2.toList ≠ [] ∧
          Text.trim entry.2.toList = entry.2.toList := by decide +kernel
      exact trimmed_eq_self (hall _ hphrase).1 (hall _ hphrase).2
  | number _ _ _ =>
      have hdigits : (toString status).toList = Nat.toDigits 10 status := by
        rw [Nat.toString_eq_repr, Nat.toList_repr]
      apply trimmed_eq_self
      · rw [hdigits]
        exact Nat.toDigits_ne_nil
      · rw [hdigits]
        exact Text.trim_eq_self fun c hc =>
          Text.isBlank_of_isDigit (Nat.isDigit_of_mem_toDigits (by decide) (by decide) hc)

end

/-- The request for a record is answered in time without success, and the whole body of the answer
has come. -/
inductive Refuses (client : Client) (network : Http.Network) (timeout : Duration) (number : Nat)
    (record : Record) : Nat → List UInt8 → Prop
  | intro {request : Http.Request} {span : Duration} {status : Nat} {body : List UInt8}
      (hrequest : client.request? record = some request)
      (hreply : network number request = ⟨some span, .answered status body true⟩)
      (hspan : span.nanoseconds ≤ timeout.nanoseconds) (hstatus : status < 200 ∨ 300 ≤ status) :
      Refuses client network timeout number record status body

section
variable {client : Client} {network : Http.Network} {timeout : Duration} {number : Nat}
  {record : Record} {plan : Plan} {text : String}

theorem ending_eq_rejected_iff {reply : Http.Reply} {code : Option Nat} {message : String} :
    ending reply = .rejected code message ↔ ∃ status body, reply = .answered status body true ∧
      (status < 200 ∨ 300 ≤ status) ∧ code = some status ∧
      rejectionMessage status (bodyText body) = message := by
  cases reply with
  | dropped | unreachable => simp [ending]
  | answered status body whole =>
      rw [ending]
      cases hsuccess : isSuccess status with
      | true =>
          have hrange : 200 ≤ status ∧ status < 300 := by simpa [isSuccess] using hsuccess
          rw [if_pos rfl]
          constructor
          · nofun
          · rintro ⟨_, _, ⟨⟩, hstatus, _⟩
            omega
      | false =>
          have hrange : status < 200 ∨ 300 ≤ status := by
            simp only [isSuccess, Bool.and_eq_false_iff, decide_eq_false_iff_not] at hsuccess
            omega
          cases whole with
          | false => simp
          | true => simp [hrange, eq_comm]

theorem ending_ne_crashed (reply : Http.Reply) : ending reply ≠ .crashed := by
  cases reply with
  | answered status body whole =>
      rw [ending]
      split
      · simp
      · split <;> simp
  | dropped | unreachable => simp [ending]

theorem conduct_ne_crashed (client : Client) (network : Http.Network) (number : Nat)
    (record : Record) : (client.conduct network number record).ending ≠ .crashed := by
  rw [conduct]
  split
  · simp [Conduct.atOnce]
  · exact ending_ne_crashed _

/-- The message that the client has for a rejection is never one to be replaced. -/
theorem ofRejection_rejectionMessage (status : Nat) (body : String) :
    Failure.ofRejection (rejectionMessage status body) =
      ⟨.rejected, rejectionMessage status body⟩ := by
  have hreason : Says status body (rejectionMessage status body) := says_iff.2 rfl
  rw [Failure.ofRejection, hreason.trimmed.1, if_neg Bool.false_ne_true]

/-- No call of the client takes a run down. -/
theorem neverCrashes_of_service (h : plan.service = client.service network) :
    plan.NeverCrashes := by
  intro number record hcrash
  rw [Plan.resolution, h, Conduct.resolve_eq_ended_iff] at hcrash
  exact conduct_ne_crashed _ _ _ _ hcrash.2

theorem conduct_ends_rejected_iff {code : Option Nat} {message : String} :
    ((client.conduct network number record).resolve timeout).2 =
        .ended (.rejected code message) ↔
      ∃ status body, client.Refuses network timeout number record status body ∧
        code = some status ∧ rejectionMessage status (bodyText body) = message := by
  rw [Conduct.resolve_eq_ended_iff, conduct]
  constructor
  · rintro ⟨htakes, hending⟩
    cases hrequest : client.request? record with
    | none => simp [hrequest, Conduct.atOnce] at hending
    | some request =>
        simp only [hrequest] at htakes hending
        obtain ⟨status, body, hreply, hstatus, hcode, hmessage⟩ :=
          ending_eq_rejected_iff.1 hending
        obtain ⟨span, hspan, hle⟩ := (Option.any_eq_true _ _).1 htakes
        refine ⟨status, body, .intro hrequest ?_ (of_decide_eq_true hle) hstatus, hcode, hmessage⟩
        rw [← hreply, ← hspan]
  · rintro ⟨status, body, ⟨hrequest, hreply, hspan, hstatus⟩, hcode, hmessage⟩
    simp only [hrequest, hreply, Option.any_some, decide_eq_true_eq]
    exact ⟨hspan, ending_eq_rejected_iff.2 ⟨status, body, rfl, hstatus, hcode, hmessage⟩⟩

theorem status?_eq_rejected_iff {resolution : Resolution} :
    resolution.status? timeout = some (.failed ⟨.rejected, text⟩) ↔
      ∃ code message, resolution = .ended (.rejected code message) ∧
        Failure.ofRejection message = ⟨.rejected, text⟩ := by
  cases resolution with
  | timedOut => simp [Resolution.status?, Failure.ofTimeout]
  | ended ending => cases ending <;> simp [Resolution.status?, Failure.ofTransport]

theorem outcome_eq_rejected_iff (h : plan.service = client.service network) :
    plan.outcome number record = .failed ⟨.rejected, text⟩ ↔
      ∃ status body, client.Refuses network plan.policy.timeout number record status body ∧
        rejectionMessage status (bodyText body) = text := by
  have hstatus := (neverCrashes_of_service h).status?_eq_some number record
  rw [Plan.resolution, h, service] at hstatus
  rw [← Option.some_inj, ← hstatus, status?_eq_rejected_iff]
  constructor
  · rintro ⟨code, message, hended, hfailure⟩
    obtain ⟨status, body, hrefuses, _, rfl⟩ := conduct_ends_rejected_iff.1 hended
    rw [ofRejection_rejectionMessage] at hfailure
    exact ⟨status, body, hrefuses, (Failure.mk.inj hfailure).2⟩
  · rintro ⟨status, body, hrefuses, rfl⟩
    exact ⟨_, _, conduct_ends_rejected_iff.2 ⟨status, body, hrefuses, rfl, rfl⟩,
      ofRejection_rejectionMessage status (bodyText body)⟩

end

/-- What a rejection says. It is what the body tells in JSON that is not nested too deeply, at the
first place that has a string which is not blank; otherwise the body; and only if the body is blank
the phrase for the status, or its number if there is no phrase. It is never blank and has no blanks
around it. In a run with the client the rows that are rejected are those for which an answer without
success came whole and in time, and they show what the answer says. -/
theorem rejections_say_why (client : Client) (network : Http.Network) :
    (∀ status body message, Says status body message ↔ rejectionMessage status body = message) ∧
    (∀ status body, rejectionMessage status body ≠ "" ∧
      Text.trimmed (rejectionMessage status body) = rejectionMessage status body) ∧
    ∀ (plan : Plan) (batch after : Batch) (account : Run.Account),
      plan.service = client.service network → batch.MayRun plan after account →
      ∀ n call, account.calls[n]? = some call → ∀ text,
        after.status? call.row = some (.failed ⟨.rejected, text⟩) ↔
          ∃ status body, client.Refuses network plan.policy.timeout n call.record status body ∧
            rejectionMessage status (bodyText body) = text := by
  refine ⟨fun _ _ _ => says_iff, fun status body => ?_, ?_⟩
  · have hreason : Says status body (rejectionMessage status body) := says_iff.2 rfl
    obtain ⟨hblank, htrimmed⟩ := hreason.trimmed
    refine ⟨fun hempty => ?_, htrimmed⟩
    rw [hempty] at hblank
    cases hblank
  · intro plan batch after account hservice hrun n call hcall text
    rw [hrun.status_of_call (neverCrashes_of_service hservice) hcall, Option.some_inj,
      outcome_eq_rejected_iff hservice]

/-- JSON in which the first place holds a blank string, the second and third no strings, and the
fourth two values, the last of which counts and is a string. -/
def refusal : Value :=
  .object
    [("error", .object [("message", .string " ")]),
      ("detail", .object
        [("error", .number (.integer 7)), ("message", .null), ("message", .string " no team\n")]),
      ("message", .string "no")]

theorem told_refusal : Told refusal.compact " no team\n" := by
  have hwords : ∀ n ∈ refusal.numbers, n.IsWord := by
    intro n hn
    obtain rfl := List.mem_singleton.1 hn
    exact ⟨7, rfl, by decide, by decide⟩
  refine ⟨refusal.tree, refusal, Value.spells_compact hwords,
    by decide +kernel, .behind ?_ (.behind ?_ (.behind ?_ (.here ?_ rfl)))⟩
  · intro other hat
    have hother : " " = other := by
      simpa [refusal, Value.at_cons_iff, Value.at_nil_iff, Value.lookup_cons] using hat
    rw [← hother]
    rfl
  · intro other hat
    simp [refusal, Value.at_cons_iff, Value.at_nil_iff, Value.lookup_cons] at hat
  · intro other hat
    simp [refusal, Value.at_cons_iff, Value.at_nil_iff, Value.lookup_cons] at hat
  · exact .inside rfl (.inside rfl (.here _))

/-- Each request is refused at once. -/
def refusingNetwork : Http.Network := fun _ _ =>
  .atOnce (.answered 422 refusal.compact.toUTF8.toList true)

def refusedClient : Client :=
  ⟨"http://[::1]/user/new", none, false⟩

def refusedPlan : Plan where
  policy := .standard
  service := refusedClient.service refusingNetwork
  cancellation := .never
  watched := true

theorem exists_request_of_refusedClient (record : Record) :
    ∃ request, refusedClient.request? record = some request := by
  have hurl : (Url.parse refusedClient.endpoint).toOption.any
      (fun url => url.scheme = "http") = true := by decide +kernel
  obtain ⟨url, hparse, hscheme⟩ := (Option.any_eq_true _ _).1 hurl
  have hweb : (url.scheme = "http" || url.scheme = "https") = true := by
    rw [of_decide_eq_true hscheme]
    rfl
  have hkey : (refusedClient.apiKey.map ("Bearer " ++ ·)).all Http.isHeaderValue = true := rfl
  rw [request?, hparse]
  simp only [Option.bind_eq_bind, Option.bind_some, hweb, hkey, guard_true]
  exact ⟨_, rfl⟩

/-- The first row shows what the answer to its request says. -/
theorem rejections_say_why_of_refusal :
    Says 422 refusal.compact "no team" ∧ rejectionMessage 422 refusal.compact = "no team" ∧
      ∃ after account call, refusedPlan.service = refusedClient.service refusingNetwork ∧
        Batch.small.MayRun refusedPlan after account ∧ account.calls[0]? = some call ∧
        refusedClient.Refuses refusingNetwork refusedPlan.policy.timeout 0 call.record 422
          refusal.compact.toUTF8.toList ∧
        after.status? call.row = some (.failed ⟨.rejected, "no team"⟩) := by
  have hservice : refusedPlan.service = refusedClient.service refusingNetwork := rfl
  obtain ⟨hreason, -, hrejected⟩ := rejections_say_why refusedClient refusingNetwork
  have hteam : Text.trimmed " no team\n" = "no team" := by decide +kernel
  have htold : Says 422 refusal.compact "no team" := hteam ▸ .told told_refusal
  have hmessage := (hreason 422 refusal.compact "no team").1 htold
  have hrun := Batch.small.mayRun_run refusedPlan
  have hnever : refusedPlan.cancellation = .never := rfl
  have hopen := Batch.not_cancelled_run hnever Batch.small
  obtain ⟨hrows, -⟩ := hrun.calls_eq (neverCrashes_of_service hservice) hopen
  have hfirst : ((Batch.small.run refusedPlan).2.calls.map Run.Call.row)[0]? = some 0 := by
    rw [hrows]
    decide +kernel
  rw [List.getElem?_map] at hfirst
  obtain ⟨call, hcall, -⟩ := Option.map_eq_some_iff.1 hfirst
  obtain ⟨request, hrequest⟩ := exists_request_of_refusedClient call.record
  have hrefuses : refusedClient.Refuses refusingNetwork refusedPlan.policy.timeout 0 call.record
      422 refusal.compact.toUTF8.toList :=
    .intro hrequest rfl (Nat.zero_le _) (.inr (by decide))
  have hbody : bodyText refusal.compact.toUTF8.toList = refusal.compact := by decide +kernel
  refine ⟨htold, hmessage, _, _, call, hservice, hrun, hcall, hrefuses, ?_⟩
  exact (hrejected refusedPlan Batch.small _ _ hservice hrun 0 call hcall "no team").2
    ⟨422, _, hrefuses, by rw [hbody, hmessage]⟩

/-- Arrays in one another. -/
def nested : Nat → Value
  | 0 => .array []
  | n + 1 => .array [nested n]

theorem numbers_nested (n : Nat) : (nested n).numbers = [] := by
  induction n with
  | zero => rfl
  | succ n ih => simp [nested, Value.numbers, Value.itemNumbers, ih]

theorem depth_tree_nested (n : Nat) : (nested n).tree.depth = n + 1 := by
  induction n with
  | zero => rfl
  | succ n ih => simp [nested, Value.tree, Value.itemTrees, Tree.depth, Tree.depthOfItems, ih]

/-- JSON with a message that is nested one step too deeply to be read. -/
def deep : Value :=
  .object [("message", .string "no"), ("trace", nested 126)]

/-- How deeply the body is nested cannot be left out. -/
theorem not_told_of_deep :
    ¬∀ status body tree written text, Spells body tree written →
      written.TellsFirst
        [["error", "message"], ["error"], ["detail", "error"], ["detail", "message"], ["detail"],
          ["message"]] text →
      rejectionMessage status body = Text.trimmed text := by
  intro h
  have hnumbers : (nested 126).numbers = [] := numbers_nested 126
  have hwords : ∀ n ∈ deep.numbers, n.IsWord := by
    simp [deep, Value.numbers, Value.memberNumbers, hnumbers]
  have hspells := Value.spells_compact hwords
  have hdepth : deep.tree.depth = 128 := by
    simp [deep, Value.tree, Value.memberTrees, Tree.depth, Tree.depthOfMembers, depth_tree_nested]
  have hsilent : ∀ text, ¬Told deep.compact text := by
    rintro text ⟨tree, written, hspells', hle, -⟩
    obtain rfl := Option.some.inj (hspells'.parse.symm.trans hspells.parse)
    omega
  have htells : deep.TellsFirst
      [["error", "message"], ["error"], ["detail", "error"], ["detail", "message"], ["detail"],
        ["message"]] "no" := by
    refine .behind ?_ (.behind ?_ (.behind ?_ (.behind ?_ (.behind ?_ (.here ?_ rfl)))))
    case refine_6 => exact .inside rfl (.here _)
    all_goals
      intro other hat
      simp [deep, Value.at_cons_iff, Value.lookup_cons] at hat
  have htext : ∃ rest, deep.compact.toList = '\x7b' :: rest := by
    rw [Value.compact, String.toList_ofList, deep, Value.write]
    exact ⟨_, rfl⟩
  obtain ⟨rest, hrest⟩ := htext
  have hbody : Text.allBlank deep.compact.toList = false := by
    rw [hrest]
    rfl
  have hplain : rejectionMessage 400 deep.compact = Text.trimmed deep.compact :=
    says_iff.1 (.plain hsilent hbody)
  have hno := h 400 deep.compact deep.tree deep "no" hspells htells
  have hlist := congrArg String.toList (hplain.symm.trans hno)
  rw [Text.trimmed, Text.trimmed, String.toList_ofList, String.toList_ofList, hrest, Text.trim,
    Text.trimStart, List.dropWhile_cons_of_neg (by decide), Text.trimEnd_cons rfl] at hlist
  have hhead := congrArg List.head? hlist
  cases hhead

end Client
end Enrolment
