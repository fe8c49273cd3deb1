import Mathlib.Data.List.Forall2
import Enrolment.Proofs.Settings.Spelling
import Enrolment.Settings.Layer

/-!
Settings put together in layers are, field by field, what the last layer that assigned the field
made of it. The environment assigns in a fixed order up to the first text that means nothing.
-/

namespace Enrolment

inductive Field where
  | baseUrl
  | apiKey
  | connectTimeout
  | sendInvite
  | concurrency
  | timeout
  | delimiter
  deriving DecidableEq, Repr

def Assignment.field : Assignment → Field
  | baseUrl _ => .baseUrl
  | apiKey _ => .apiKey
  | connectTimeout _ => .connectTimeout
  | sendInvite _ => .sendInvite
  | concurrency _ => .concurrency
  | timeout _ => .timeout
  | delimiter _ => .delimiter

/-- The last of the assignments to a field. -/
def Assignment.last (field : Field) (given : List Assignment) : Option Assignment :=
  (given.filter fun a => a.field = field).getLast?

section
variable {field : Field} {given : List Assignment} {a : Assignment}

theorem Assignment.mem_of_last (h : Assignment.last field given = some a) :
    a ∈ given ∧ a.field = field := by
  obtain ⟨hmem, hfield⟩ := List.mem_filter.1 (List.mem_of_getLast? h)
  exact ⟨hmem, of_decide_eq_true hfield⟩

theorem Assignment.last_eq_none_iff :
    Assignment.last field given = none ↔ ∀ a ∈ given, a.field ≠ field := by
  simp [Assignment.last]

end

namespace Field

/-- The fields that the environment gives, in the order in which they are taken. -/
def overridden : List Field :=
  [baseUrl, apiKey, concurrency, timeout, delimiter]

/-- What the environment holds for a field. -/
def text? (vars : Variables) : Field → Option String
  | baseUrl => vars "LITELLM_PROXY_URL"
  | apiKey => (vars "LITELLM_API_KEY").or (vars "LITELLM_MASTER_KEY")
  | concurrency => vars "USER_IMPORT_CONCURRENCY"
  | timeout => vars "USER_IMPORT_TIMEOUT_SECS"
  | delimiter => vars "USER_IMPORT_DELIMITER"
  | connectTimeout | sendInvite => none

/-- What the text for a field assigns to it. -/
def Means (field : Field) (text : String) (a : Assignment) : Prop :=
  match field with
  | baseUrl => a = .baseUrl text
  | apiKey => a = .apiKey (some text)
  | concurrency => ∃ n, SpellsNumber (Text.trim text.toList) n ∧ a = .concurrency n
  | timeout => ∃ n, SpellsNumber (Text.trim text.toList) n ∧ a = .timeout n
  | delimiter => ∃ c, SpellsDelimiter text c ∧ a = .delimiter c
  | connectTimeout | sendInvite => False

/-- What is wrong with a text for a field that means nothing. -/
def Faulty (field : Field) (text : String) (problem : SettingsProblem) : Prop :=
  match field with
  | concurrency =>
      ∃ reason, MisspellsNumber (Text.trim text.toList) reason ∧ problem = .concurrencyText reason
  | timeout =>
      ∃ reason, MisspellsNumber (Text.trim text.toList) reason ∧ problem = .timeoutText reason
  | delimiter => (¬∃ c, SpellsDelimiter text c) ∧ problem = .delimiterText text
  | baseUrl | apiKey | connectTimeout | sendInvite => False

section
variable {vars : Variables} {field : Field} {text : String} {a : Assignment}
  {problem : SettingsProblem}

theorem field_of_means (h : field.Means text a) : a.field = field := by
  cases field with
  | baseUrl | apiKey =>
      obtain rfl := h
      rfl
  | concurrency | timeout | delimiter =>
      obtain ⟨_, _, rfl⟩ := h
      rfl
  | connectTimeout | sendInvite => cases h

theorem mem_overridden (h : field.text? vars = some text) : field ∈ overridden := by
  cases field with
  | connectTimeout | sendInvite => cases h
  | baseUrl | apiKey | concurrency | timeout | delimiter => decide

theorem not_means_of_faulty (h : field.Faulty text problem) : ¬field.Means text a := by
  intro hmeans
  cases field with
  | baseUrl | apiKey | connectTimeout | sendInvite => cases h
  | concurrency | timeout =>
      obtain ⟨reason, hreason, -⟩ := h
      obtain ⟨n, hn, -⟩ := hmeans
      have hread := readNumber_of_misspells hreason
      rw [readNumber_of_spells hn] at hread
      cases hread
  | delimiter =>
      obtain ⟨c, hc, -⟩ := hmeans
      exact h.1 ⟨c, hc⟩

theorem means_or_faulty (h : field.text? vars = some text) :
    (∃ a, field.Means text a) ∨ ∃ problem, field.Faulty text problem := by
  cases field with
  | baseUrl => exact .inl ⟨_, rfl⟩
  | apiKey => exact .inl ⟨_, rfl⟩
  | connectTimeout | sendInvite => cases h
  | concurrency | timeout =>
      obtain ⟨n, hn⟩ | ⟨reason, hreason⟩ := spells_or_misspells (Text.trim text.toList)
      · exact .inl ⟨_, n, hn, rfl⟩
      · exact .inr ⟨_, reason, hreason, rfl⟩
  | delimiter =>
      by_cases hspells : ∃ c, SpellsDelimiter text c
      · obtain ⟨c, hc⟩ := hspells
        exact .inl ⟨_, c, hc, rfl⟩
      · exact .inr ⟨_, hspells, rfl⟩

end

end Field

/-- What the environment assigns to fields that are taken one after the other, and what stops
that. -/
inductive Takes (vars : Variables) : List Field → List Assignment → Option SettingsProblem → Prop
  | done : Takes vars [] [] none
  | absent {field fields given problem} (habsent : field.text? vars = none)
      (hlater : Takes vars fields given problem) : Takes vars (field :: fields) given problem
  | present {field fields text a given problem} (hpresent : field.text? vars = some text)
      (hmeans : field.Means text a) (hlater : Takes vars fields given problem) :
      Takes vars (field :: fields) (a :: given) problem
  | stop {field fields text problem} (hpresent : field.text? vars = some text)
      (hfaulty : field.Faulty text problem) : Takes vars (field :: fields) [] (some problem)

namespace Takes

variable {vars : Variables} {fields : List Field} {given : List Assignment} {field : Field}
  {text : String} {problem : SettingsProblem}

theorem exists_of_fields (vars : Variables) (fields : List Field) :
    ∃ given problem, Takes vars fields given problem := by
  induction fields with
  | nil => exact ⟨[], none, .done⟩
  | cons field fields ih =>
      obtain ⟨given, problem, hlater⟩ := ih
      cases htext : field.text? vars with
      | none => exact ⟨given, problem, .absent htext hlater⟩
      | some text =>
          obtain ⟨a, hmeans⟩ | ⟨fault, hfaulty⟩ := field.means_or_faulty htext
          · exact ⟨a :: given, problem, .present htext hmeans hlater⟩
          · exact ⟨[], some fault, .stop htext hfaulty⟩

/-- What was assigned is what the text for its field means. -/
theorem means_of_mem (h : Takes vars fields given none) {a : Assignment} (ha : a ∈ given) :
    ∃ text, a.field ∈ fields ∧ a.field.text? vars = some text ∧ a.field.Means text a := by
  generalize hproblem : (none : Option SettingsProblem) = problem at h
  induction h with
  | done => cases ha
  | absent _ _ ih =>
      obtain ⟨text, hfield, htext⟩ := ih ha hproblem
      exact ⟨text, List.mem_cons_of_mem _ hfield, htext⟩
  | present hpresent hmeans _ ih =>
      obtain rfl | ha := List.mem_cons.1 ha
      · obtain rfl := Field.field_of_means hmeans
        exact ⟨_, List.mem_cons_self, hpresent, hmeans⟩
      · obtain ⟨text, hfield, htext⟩ := ih ha hproblem
        exact ⟨text, List.mem_cons_of_mem _ hfield, htext⟩
  | stop => cases hproblem

/-- Where nothing stops it, every text is taken. -/
theorem exists_mem (h : Takes vars fields given none) (hfield : field ∈ fields)
    (htext : field.text? vars = some text) : ∃ a ∈ given, field.Means text a := by
  generalize hproblem : (none : Option SettingsProblem) = problem at h
  induction h with
  | done => cases hfield
  | absent habsent _ ih =>
      obtain rfl | hfield := List.mem_cons.1 hfield
      · rw [habsent] at htext
        cases htext
      · exact ih hfield hproblem
  | present hpresent hmeans _ ih =>
      obtain rfl | hfield := List.mem_cons.1 hfield
      · rw [hpresent] at htext
        obtain rfl := Option.some.inj htext
        exact ⟨_, List.mem_cons_self, hmeans⟩
      · obtain ⟨a, ha, hlater⟩ := ih hfield hproblem
        exact ⟨a, List.mem_cons_of_mem _ ha, hlater⟩
  | stop => cases hproblem

/-- The fields before the one that stops it are taken as if they were all. -/
theorem stopped (h : Takes vars fields given (some problem)) :
    ∃ earlier field later text, fields = earlier ++ field :: later ∧
      Takes vars earlier given none ∧ field.text? vars = some text ∧
      field.Faulty text problem := by
  generalize hproblem : some problem = stopping at h
  induction h with
  | done => cases hproblem
  | absent habsent _ ih =>
      obtain ⟨earlier, field, later, text, rfl, htakes, hfault⟩ := ih hproblem
      exact ⟨_ :: earlier, field, later, text, rfl, .absent habsent htakes, hfault⟩
  | present hpresent hmeans _ ih =>
      obtain ⟨earlier, field, later, text, rfl, htakes, hfault⟩ := ih hproblem
      exact ⟨_ :: earlier, field, later, text, rfl, .present hpresent hmeans htakes, hfault⟩
  | stop hpresent hfaulty =>
      obtain rfl := Option.some.inj hproblem
      exact ⟨[], _, _, _, rfl, .done, hpresent, hfaulty⟩

end Takes

/-- What a layer assigns, in order. -/
def Layer.Assigns : Layer → List Assignment → Prop
  | environment vars, given => ∃ problem, Takes vars Field.overridden given problem
  | assignment a, given => given = [a]
  | check, given => given = []

namespace Settings

/-- What a field holds, as the assignment that puts it there. -/
def value (settings : Settings) : Field → Assignment
  | .baseUrl => .baseUrl settings.proxy.baseUrl
  | .apiKey => .apiKey settings.proxy.apiKey
  | .connectTimeout => .connectTimeout settings.proxy.connectTimeout
  | .sendInvite => .sendInvite settings.proxy.sendInvite
  | .concurrency => .concurrency settings.submission.concurrency
  | .timeout => .timeout settings.submission.timeout
  | .delimiter => .delimiter settings.input.delimiter

/-- The settings after all layers, also those behind one that fails. -/
def after (start : Settings) (layers : List Layer) : Settings :=
  layers.foldl (fun settings layer => (settings.apply layer).1) start

/-- What the environment holds for some fields is assigned to them, and nothing else is changed. -/
structure Took (vars : Variables) (fields : List Field) (start finish : Settings) : Prop where
  taken : ∀ field ∈ fields, ∀ text, field.text? vars = some text →
    field.Means text (finish.value field)
  others : ∀ field, (field ∈ fields → field.text? vars = none) →
    finish.value field = start.value field

section
variable {vars : Variables} {fields : List Field} {given : List Assignment}
  {problem : Option SettingsProblem}

theorem ext_value {settings settings' : Settings}
    (h : ∀ field, settings.value field = settings'.value field) : settings = settings' := by
  obtain ⟨⟨_, _, _, _⟩, ⟨_, _⟩, ⟨_⟩⟩ := settings
  obtain ⟨⟨_, _, _, _⟩, ⟨_, _⟩, ⟨_⟩⟩ := settings'
  obtain rfl := Assignment.baseUrl.inj (h .baseUrl)
  obtain rfl := Assignment.apiKey.inj (h .apiKey)
  obtain rfl := Assignment.connectTimeout.inj (h .connectTimeout)
  obtain rfl := Assignment.sendInvite.inj (h .sendInvite)
  obtain rfl := Assignment.concurrency.inj (h .concurrency)
  obtain rfl := Assignment.timeout.inj (h .timeout)
  obtain rfl := Assignment.delimiter.inj (h .delimiter)
  rfl

theorem value_assign (settings : Settings) (a : Assignment) (field : Field) :
    (settings.assign a).value field = if a.field = field then a else settings.value field := by
  cases a <;> cases field <;> rfl

theorem value_foldl_assign (start : Settings) (given : List Assignment) (field : Field) :
    (given.foldl assign start).value field =
      (Assignment.last field given).getD (start.value field) := by
  induction given generalizing start with
  | nil => rfl
  | cons a given ih =>
      rw [List.foldl_cons, ih, value_assign, Assignment.last, Assignment.last, List.filter_cons]
      by_cases hfield : a.field = field
      · rw [if_pos hfield, if_pos (decide_eq_true hfield), List.getLast?_cons]
        rfl
      · rw [if_neg hfield, if_neg (by simp [hfield])]

/-- How a field is read and put in, as it is to be taken. -/
structure Reads {α : Type} (field : Field) (read : String → Except SettingsProblem α)
    (change : Settings → α → Settings) (assignment : α → Assignment) : Prop where
  change : ∀ settings a, change settings a = settings.assign (assignment a)
  means : ∀ text a, field.Means text a → ∃ b, read text = .ok b ∧ a = assignment b
  faulty : ∀ text problem, field.Faulty text problem → read text = .error problem

theorem reads_baseUrl : Reads .baseUrl .ok withBaseUrl .baseUrl :=
  ⟨fun _ _ => rfl, fun text _ h => ⟨text, rfl, h⟩, fun _ _ h => h.elim⟩

theorem reads_apiKey : Reads .apiKey .ok withApiKey fun key => .apiKey (some key) :=
  ⟨fun _ _ => rfl, fun text _ h => ⟨text, rfl, h⟩, fun _ _ h => h.elim⟩

theorem reads_number {field : Field} {change : Settings → Nat → Settings}
    {assignment : Nat → Assignment} {problem : NumberProblem → SettingsProblem}
    (hchange : ∀ settings n, change settings n = settings.assign (assignment n))
    (hmeans : ∀ text a, field.Means text a →
      ∃ n, SpellsNumber (Text.trim text.toList) n ∧ a = assignment n)
    (hfaulty : ∀ text fault, field.Faulty text fault →
      ∃ reason, MisspellsNumber (Text.trim text.toList) reason ∧ fault = problem reason) :
    Reads field (readSpacedNumber problem) change assignment := by
  refine ⟨hchange, fun text a h => ?_, fun text fault h => ?_⟩
  · obtain ⟨n, hn, rfl⟩ := hmeans text a h
    refine ⟨n, ?_, rfl⟩
    rw [readSpacedNumber, readNumber_of_spells hn]
    rfl
  · obtain ⟨reason, hreason, rfl⟩ := hfaulty text fault h
    rw [readSpacedNumber, readNumber_of_misspells hreason]
    rfl

theorem reads_concurrency :
    Reads .concurrency (readSpacedNumber .concurrencyText) withConcurrency .concurrency :=
  reads_number (fun _ _ => rfl) (fun _ _ h => h) fun _ _ h => h

theorem reads_timeout : Reads .timeout (readSpacedNumber .timeoutText) withTimeout .timeout :=
  reads_number (fun _ _ => rfl) (fun _ _ h => h) fun _ _ h => h

theorem reads_delimiter : Reads .delimiter readDelimiter withDelimiter .delimiter := by
  refine ⟨fun _ _ => rfl, ?_, ?_⟩
  · rintro text _ ⟨c, hc, rfl⟩
    exact ⟨c, readDelimiter_of_spells hc, rfl⟩
  · rintro text _ ⟨hspells, rfl⟩
    exact readDelimiter_of_not_spells hspells

/-- One field is taken as the environment has it, if those behind it are. -/
theorem take_eq {α : Type} {field : Field} {read : String → Except SettingsProblem α}
    {change : Settings → α → Settings} {assignment : α → Assignment}
    {next : Settings → Settings × Option SettingsProblem}
    (hreads : Reads field read change assignment)
    (hnext : ∀ given problem, Takes vars fields given problem →
      ∀ s, next s = (given.foldl assign s, problem))
    (h : Takes vars (field :: fields) given problem) (start : Settings) :
    start.take (field.text? vars) read change next = (given.foldl assign start, problem) := by
  cases h with
  | absent habsent hlater =>
      rw [take, habsent]
      exact hnext _ _ hlater start
  | present hpresent hmeans hlater =>
      obtain ⟨b, hread, rfl⟩ := hreads.means _ _ hmeans
      rw [take, hpresent, Option.map_some, hread]
      dsimp only
      rw [hnext _ _ hlater, hreads.change]
      rfl
  | stop hpresent hfaulty =>
      rw [take, hpresent, Option.map_some, hreads.faulty _ _ hfaulty]
      rfl

/-- What is put in if it is there is taken without being read. -/
theorem take_ok (settings : Settings) (text : Option String) (change : Settings → String → Settings)
    (next : Settings → Settings × Option SettingsProblem) :
    settings.take text .ok change next = next (settings.put text change) := by
  cases text <;> rfl

theorem override_eq_take (settings : Settings) (vars : Variables) :
    settings.override vars =
      (settings.take (Field.baseUrl.text? vars) .ok withBaseUrl fun settings =>
      settings.take (Field.apiKey.text? vars) .ok withApiKey fun settings =>
      settings.take (Field.concurrency.text? vars) (readSpacedNumber .concurrencyText)
        withConcurrency fun settings =>
      settings.take (Field.timeout.text? vars) (readSpacedNumber .timeoutText)
        withTimeout fun settings =>
      settings.take (Field.delimiter.text? vars) readDelimiter withDelimiter fun settings =>
      (settings, none)) := by
  rw [take_ok, take_ok]
  rfl

theorem override_eq (h : Takes vars Field.overridden given problem) (start : Settings) :
    start.override vars = (given.foldl assign start, problem) := by
  rw [override_eq_take]
  refine take_eq reads_baseUrl (fun _ _ h => ?_) h start
  refine take_eq reads_apiKey (fun _ _ h => ?_) h
  refine take_eq reads_concurrency (fun _ _ h => ?_) h
  refine take_eq reads_timeout (fun _ _ h => ?_) h
  refine take_eq reads_delimiter (fun _ _ h _ => ?_) h
  cases h
  rfl

theorem Took.of_takes (h : Takes vars fields given none) (start : Settings) :
    Took vars fields start (given.foldl assign start) := by
  constructor
  · intro field hfield text htext
    rw [value_foldl_assign]
    obtain ⟨a, ha, hmeans⟩ := h.exists_mem hfield htext
    cases hlast : Assignment.last field given with
    | none => exact absurd (Field.field_of_means hmeans) (Assignment.last_eq_none_iff.1 hlast a ha)
    | some b =>
        obtain ⟨hb, rfl⟩ := Assignment.mem_of_last hlast
        obtain ⟨text', _, htext', hmeans'⟩ := h.means_of_mem hb
        rw [htext] at htext'
        obtain rfl := Option.some.inj htext'
        exact hmeans'
  · intro field hnone
    have hlast : Assignment.last field given = none := by
      rw [Assignment.last_eq_none_iff]
      rintro a ha rfl
      obtain ⟨text, hfield, htext, -⟩ := h.means_of_mem ha
      rw [hnone hfield] at htext
      cases htext
    rw [value_foldl_assign, hlast, Option.getD_none]

theorem override_fails_iff (vars : Variables) (start : Settings) :
    (start.override vars).2 ≠ none ↔ ∃ (field : Field) (text : String),
      field.text? vars = some text ∧ ¬∃ a, field.Means text a := by
  obtain ⟨given, problem, htakes⟩ := Takes.exists_of_fields vars Field.overridden
  rw [override_eq htakes]
  cases problem with
  | none =>
      refine ⟨fun h => absurd rfl h, ?_⟩
      rintro ⟨field, text, htext, hnot⟩
      obtain ⟨a, -, ha⟩ := htakes.exists_mem (Field.mem_overridden htext) htext
      exact absurd ⟨a, ha⟩ hnot
  | some problem =>
      refine ⟨fun _ => ?_, fun _ => nofun⟩
      obtain ⟨_, field, _, text, -, -, htext, hfaulty⟩ := htakes.stopped
      exact ⟨field, text, htext, fun ⟨a, ha⟩ => Field.not_means_of_faulty hfaulty ha⟩

theorem override_took (vars : Variables) (start : Settings)
    (h : (start.override vars).2 = none) :
    Took vars Field.overridden start (start.override vars).1 := by
  obtain ⟨given, problem, htakes⟩ := Takes.exists_of_fields vars Field.overridden
  rw [override_eq htakes] at h ⊢
  obtain rfl : problem = none := h
  exact .of_takes htakes start

theorem override_stopped (vars : Variables) (start : Settings) (problem : SettingsProblem)
    (h : (start.override vars).2 = some problem) :
    ∃ earlier field later text, Field.overridden = earlier ++ field :: later ∧
      field.text? vars = some text ∧ field.Faulty text problem ∧
      Took vars earlier start (start.override vars).1 := by
  obtain ⟨given, problem', htakes⟩ := Takes.exists_of_fields vars Field.overridden
  rw [override_eq htakes] at h ⊢
  obtain rfl : problem' = some problem := h
  obtain ⟨earlier, field, later, text, hfields, hearlier, htext, hfaulty⟩ := htakes.stopped
  exact ⟨earlier, field, later, text, hfields, htext, hfaulty, .of_takes hearlier start⟩

end

section
variable {layer : Layer} {layers : List Layer}

theorem apply_eq {given : List Assignment} (h : layer.Assigns given) (start : Settings) :
    (start.apply layer).1 = given.foldl assign start := by
  cases layer with
  | environment vars =>
      obtain ⟨problem, htakes⟩ := h
      rw [apply, override_eq htakes]
  | assignment a =>
      obtain rfl := h
      rfl
  | check =>
      obtain rfl := h
      rfl

theorem exists_assigns (layers : List Layer) :
    ∃ given, List.Forall₂ Layer.Assigns layers given := by
  induction layers with
  | nil => exact ⟨[], .nil⟩
  | cons layer layers ih =>
      obtain ⟨given, hgiven⟩ := ih
      have hlayer : ∃ assignments, layer.Assigns assignments := by
        cases layer with
        | environment vars => exact Takes.exists_of_fields vars Field.overridden
        | assignment a => exact ⟨_, rfl⟩
        | check => exact ⟨_, rfl⟩
      obtain ⟨assignments, hassigns⟩ := hlayer
      exact ⟨assignments :: given, .cons hassigns hgiven⟩

theorem after_eq {given : List (List Assignment)} (h : List.Forall₂ Layer.Assigns layers given)
    (start : Settings) : after start layers = given.flatten.foldl assign start := by
  induction h generalizing start with
  | nil => rfl
  | cons hlayer _ ih =>
      rw [List.flatten_cons, List.foldl_append, ← apply_eq hlayer, ← ih]
      rfl

theorem value_after {given : List (List Assignment)}
    (h : List.Forall₂ Layer.Assigns layers given) (start : Settings) (field : Field) :
    (after start layers).value field =
      (Assignment.last field given.flatten).getD (start.value field) := by
  rw [after_eq h, value_foldl_assign]

/-- Of what differs below, nothing is left where it is assigned anew above. -/
theorem after_eq_after {given : List (List Assignment)}
    (h : List.Forall₂ Layer.Assigns layers given) {start start' : Settings}
    (hanew : ∀ field, start.value field ≠ start'.value field →
      ∃ a ∈ given.flatten, a.field = field) : after start layers = after start' layers := by
  refine ext_value fun field => ?_
  rw [value_after h, value_after h]
  by_cases hsame : start.value field = start'.value field
  · rw [hsame]
  · obtain ⟨a, ha, hfield⟩ := hanew field hsame
    cases hlast : Assignment.last field given.flatten with
    | none => exact absurd hfield (Assignment.last_eq_none_iff.1 hlast a ha)
    | some b => rfl

end

/-- Layers override one another field by field, whatever they fail at, and the environment is taken
up to the first text that means nothing. What a layer replaces is not there for the checks behind
it. -/
theorem layers_override :
    (∀ layers, ∃ given, List.Forall₂ Layer.Assigns layers given) ∧
    (∀ layers given, List.Forall₂ Layer.Assigns layers given →
      (∀ start field, (after start layers).value field =
        (Assignment.last field given.flatten).getD (start.value field)) ∧
      ∀ start start' : Settings,
        (∀ field, start.value field ≠ start'.value field →
          ∃ a ∈ given.flatten, a.field = field) →
        ((after start layers).apply .check).2 = ((after start' layers).apply .check).2) ∧
    ∀ vars (start : Settings),
      ((start.override vars).2 ≠ none ↔ ∃ (field : Field) (text : String),
        field.text? vars = some text ∧ ¬∃ a, field.Means text a) ∧
      ((start.override vars).2 = none →
        Took vars Field.overridden start (start.override vars).1) ∧
      ∀ problem, (start.override vars).2 = some problem →
        ∃ earlier field later text, Field.overridden = earlier ++ field :: later ∧
          field.text? vars = some text ∧ field.Faulty text problem ∧
          Took vars earlier start (start.override vars).1 := by
  refine ⟨exists_assigns, fun layers given h => ⟨value_after h, fun start start' hanew => ?_⟩,
    fun vars start => ⟨override_fails_iff vars start, override_took vars start,
      override_stopped vars start⟩⟩
  rw [after_eq_after h hanew]

/-- An environment whose concurrency can be read, with blanks and a plus sign about it, and whose
timeout cannot. A concurrency below it does not matter, and a timeout can be given above it. With
nothing but the name of a delimiter, all can be read. -/
theorem layers_override_of_bad_timeout :
    let vars : Variables := fun name =>
      if name = "USER_IMPORT_CONCURRENCY" then some " +5\t"
      else if name = "USER_IMPORT_TIMEOUT_SECS" then some "3s" else none
    let named : Variables := fun name => if name = "USER_IMPORT_DELIMITER" then some "tab" else none
    let layers := [.environment vars, .check, .assignment (.timeout 9)]
    (after (standard.withConcurrency 1000) layers).value .concurrency = .concurrency 5 ∧
      ((after (standard.withConcurrency 1000) layers).apply .check).2 =
        ((after standard layers).apply .check).2 ∧
      (∃ earlier field later text, Field.overridden = earlier ++ field :: later ∧
        field.text? vars = some text ∧ field.Faulty text (.timeoutText .badDigit) ∧
        Took vars earlier standard (standard.override vars).1) ∧
      Took named Field.overridden standard (standard.override named).1 := by
  intro vars named layers
  have hspells : SpellsNumber (Text.trim " +5\t".toList) 5 := by
    have hunsigned : unsigned (Text.trim " +5\t".toList) = ['5'] := by decide +kernel
    rw [SpellsNumber, hunsigned]
    exact ⟨by simp, ⟨by simp, by decide⟩, by decide⟩
  have hmisspells : MisspellsNumber (Text.trim "3s".toList) .badDigit := by
    have hunsigned : unsigned (Text.trim "3s".toList) = ['3', 's'] := by decide +kernel
    exact .inr ⟨['3'], 's', [], hunsigned, ⟨by simp, by decide⟩, by decide⟩
  have hconcurrency : Field.concurrency.Means " +5\t" (.concurrency 5) := ⟨5, hspells, rfl⟩
  have htimeout : Field.timeout.Faulty "3s" (.timeoutText .badDigit) := ⟨_, hmisspells, rfl⟩
  have hgiven : List.Forall₂ Layer.Assigns layers [[.concurrency 5], [], [.timeout 9]] :=
    .cons ⟨_, .absent rfl (.absent rfl (.present rfl hconcurrency (.stop rfl htimeout)))⟩
      (.cons rfl (.cons rfl .nil))
  obtain ⟨hvalue, hchecks⟩ := layers_override.2.1 layers _ hgiven
  refine ⟨hvalue _ _, hchecks _ _ ?_, (layers_override.2.2 vars standard).2.2 _ rfl,
    (layers_override.2.2 named standard).2.1 rfl⟩
  intro field hdiffers
  cases field with
  | concurrency => exact ⟨.concurrency 5, by decide, rfl⟩
  | baseUrl | apiKey | connectTimeout | sendInvite | timeout | delimiter =>
      exact absurd rfl hdiffers

end Settings
end Enrolment
