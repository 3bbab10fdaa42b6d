import ConfigResolver.Proofs.Resolver.Lookup
import ConfigResolver.Ssm.Store

/-!
# Lookups over the parameter service

A resolver whose store is the parameter service sends one request for each candidate of a key. What
a reply says is told here without the store, by what a reader finds in it: `HasValue`, `SaysAbsent`
and `SaysUnusable` look at the parameter that it describes or at the code of its refusal, and any
other reply is a failure of its own. `valueIn_eq_ok_iff`, `isMissing_valueIn_iff` and
`valueIn_unusable_iff` find them in the answers of the store, for every reader.

`Network.recorded` replies by everything that was sent, so that it can give any sequence of replies,
and its state shows the requests. Main statement: `lookupParameter_absorbs_absence`. Only a reply
that says that there is no such parameter leads on to the next candidate and to the defaults.
-/

namespace ConfigResolver.Ssm

/-! ## What a reply says -/

/-- The code of a refusal says that there is no such parameter. -/
def AbsentCode (code : Option String) : Prop :=
  code = some "ParameterNotFound" ∨ code = some "ParameterVersionNotFound"

/-- The code of a refusal says that the caller cannot use the service. -/
def UnusableCode (code : Option String) : Prop :=
  ∃ text ∈ code, ∃ start ∈ ["AccessDenied", "UnrecognizedClient", "ExpiredToken",
    "InvalidSignature"], start.toList <+: text.toList

/-- The reply has the value of a parameter. -/
def HasValue (reader : Reader) (value : String) : Option Reply → Prop
  | none => False
  | some reply => ∃ item, reader.parameter reply = .ok (some item) ∧ item.value = some value

/-- The reply says that there is no such parameter: it is a success without a value, or a refusal
for that reason. -/
def SaysAbsent (reader : Reader) : Option Reply → Prop
  | none => False
  | some reply =>
    (∃ item, reader.parameter reply = .ok item ∧ ∀ described ∈ item, described.value = none) ∨
      ∃ refusal, reader.parameter reply = .error refusal ∧ AbsentCode refusal.code

/-- The service cannot be used: there is no reply, or a refusal for that reason. -/
def SaysUnusable (reader : Reader) : Option Reply → Prop
  | none => True
  | some reply => ∃ refusal, reader.parameter reply = .error refusal ∧ UnusableCode refusal.code

/-! ## What the store makes of it -/

/-- No code says both. -/
theorem AbsentCode.not_unusable {code : Option String} (h : AbsentCode code) :
    ¬ UnusableCode code := by
  unfold UnusableCode
  rcases h with rfl | rfl <;> simp

theorem contains_notFoundCodes_iff {code : String} :
    notFoundCodes.contains code ↔ AbsentCode (some code) := by
  simp [notFoundCodes, AbsentCode]

theorem any_unavailableCodes_iff {code : String} :
    (unavailableCodes.any fun start ↦ start.toList.isPrefixOf code.toList) ↔
      UnusableCode (some code) := by
  simp [unavailableCodes, UnusableCode]

/-- A refusal is classified by what its code says. -/
theorem classify_cases (code : Option String) (text : String) :
    (classify code text = .notFound text ∧ AbsentCode code ∧ ¬ UnusableCode code) ∨
      (classify code text = .unavailable text ∧ ¬ AbsentCode code ∧ UnusableCode code) ∨
      (classify code text = .other text ∧ ¬ AbsentCode code ∧ ¬ UnusableCode code) := by
  cases code with
  | none => exact .inr (.inr ⟨rfl, by simp [AbsentCode], by simp [UnusableCode]⟩)
  | some code =>
    by_cases habsent : AbsentCode (some code)
    · exact .inl ⟨if_pos (contains_notFoundCodes_iff.2 habsent), habsent, habsent.not_unusable⟩
    · rw [classify, if_neg (mt contains_notFoundCodes_iff.1 habsent)]
      by_cases hunusable : UnusableCode (some code)
      · exact .inr (.inl ⟨if_pos (any_unavailableCodes_iff.2 hunusable), habsent, hunusable⟩)
      · exact .inr (.inr ⟨if_neg (mt any_unavailableCodes_iff.1 hunusable), habsent, hunusable⟩)

section Answers

variable {reader : Reader} {name value : String} {reply : Option Reply}

/-- What the store answers to the request for a parameter. -/
def valueIn (reader : Reader) (name : String) (reply : Option Reply) : Except StoreError String :=
  answer reader.parameter reply >>= valueOf name

theorem valueIn_of_refusal {r : Reply} {refusal : Refusal}
    (h : reader.parameter r = .error refusal) (name : String) :
    valueIn reader name (some r) = .error (classify refusal.code refusal.text) := by
  simp only [valueIn, answer, h]
  rfl

theorem valueIn_of_item {r : Reply} {item : Option Item} (h : reader.parameter r = .ok item)
    (name : String) : valueIn reader name (some r) = valueOf name item := by
  simp only [valueIn, answer, h]
  rfl

theorem valueOf_cases (name : String) (item : Option Item) :
    (∃ described value, item = some described ∧ described.value = some value ∧
        valueOf name item = .ok value) ∨
      (∀ described ∈ item, described.value = none) ∧
        valueOf name item = .error (.notFound name) := by
  unfold valueOf
  cases item with
  | none => exact .inr ⟨nofun, rfl⟩
  | some described =>
    cases hvalue : described.value with
    | none => exact .inr (by simp [hvalue])
    | some value => exact .inl ⟨described, value, by simp [hvalue]⟩

/-- There is no reply, or it describes a parameter with a value or none, or it is a refusal. -/
theorem valueIn_cases (reader : Reader) (name : String) (reply : Option Reply) :
    (reply = none ∧ valueIn reader name reply = .error unreachable) ∨
      ∃ r, reply = some r ∧
        ((∃ item value, reader.parameter r = .ok (some item) ∧ item.value = some value ∧
            valueIn reader name reply = .ok value) ∨
          (∃ item, reader.parameter r = .ok item ∧ (∀ described ∈ item, described.value = none) ∧
            valueIn reader name reply = .error (.notFound name)) ∨
          ∃ refusal, reader.parameter r = .error refusal ∧
            valueIn reader name reply = .error (classify refusal.code refusal.text)) := by
  cases reply with
  | none => exact .inl ⟨rfl, rfl⟩
  | some r =>
    refine .inr ⟨r, rfl, ?_⟩
    cases hread : reader.parameter r with
    | error refusal => exact .inr (.inr ⟨refusal, rfl, valueIn_of_refusal hread name⟩)
    | ok item =>
      rw [valueIn_of_item hread]
      rcases valueOf_cases name item with ⟨described, value, rfl, hvalue, h⟩ | ⟨hnone, h⟩
      · exact .inl ⟨described, value, rfl, hvalue, h⟩
      · exact .inr (.inl ⟨item, rfl, hnone, h⟩)

theorem valueIn_eq_ok_iff :
    valueIn reader name reply = .ok value ↔ HasValue reader value reply := by
  rcases valueIn_cases reader name reply with
    ⟨rfl, h⟩ | ⟨r, rfl, ⟨item, v, hread, hv, h⟩ | ⟨item, hread, hv, h⟩ | ⟨refusal, hread, h⟩⟩
  · simp [h, HasValue]
  · simp [h, HasValue, hread, hv]
  · cases item with
    | none => simp [h, HasValue, hread]
    | some item => simp [h, HasValue, hread, hv item rfl]
  · simp [h, HasValue, hread]

theorem isMissing_valueIn_iff (name : String) :
    IsMissing (valueIn reader name reply) ↔ SaysAbsent reader reply := by
  rcases valueIn_cases reader name reply with
    ⟨rfl, h⟩ | ⟨r, rfl, ⟨item, v, hread, hv, h⟩ | ⟨item, hread, hv, h⟩ | ⟨refusal, hread, h⟩⟩
  · simp [h, IsMissing, unreachable, SaysAbsent]
  · simp [h, IsMissing, SaysAbsent, hread, hv]
  · simp only [h, IsMissing, SaysAbsent, hread]
    exact iff_of_true ⟨name, rfl⟩ (.inl ⟨item, rfl, hv⟩)
  · rcases classify_cases refusal.code refusal.text with
      ⟨hclass, hcode, -⟩ | ⟨hclass, hcode, -⟩ | ⟨hclass, hcode, -⟩ <;>
      simp [h, IsMissing, SaysAbsent, hread, hclass, hcode]

theorem valueIn_unusable_iff (name : String) :
    (∃ text, valueIn reader name reply = .error (.unavailable text)) ↔
      SaysUnusable reader reply := by
  rcases valueIn_cases reader name reply with
    ⟨rfl, h⟩ | ⟨r, rfl, ⟨item, v, hread, -, h⟩ | ⟨item, hread, -, h⟩ | ⟨refusal, hread, h⟩⟩
  · simp [h, unreachable, SaysUnusable]
  · simp [h, SaysUnusable, hread]
  · simp [h, SaysUnusable, hread]
  · rcases classify_cases refusal.code refusal.text with
      ⟨hclass, -, hcode⟩ | ⟨hclass, -, hcode⟩ | ⟨hclass, -, hcode⟩ <;>
      simp [h, SaysUnusable, hread, hclass, hcode]

/-- Any other reply is a failure of its own. -/
theorem valueIn_eq_other (name : String) (hvalue : ∀ value, ¬ HasValue reader value reply)
    (habsent : ¬ SaysAbsent reader reply) (hunusable : ¬ SaysUnusable reader reply) :
    ∃ text, valueIn reader name reply = .error (.other text) := by
  cases h : valueIn reader name reply with
  | ok value => exact absurd (valueIn_eq_ok_iff.1 h) (hvalue value)
  | error e =>
    cases e with
    | notFound text => exact absurd ((isMissing_valueIn_iff name).1 ⟨text, h⟩) habsent
    | unavailable text => exact absurd ((valueIn_unusable_iff name).1 ⟨text, h⟩) hunusable
    | other text => exact ⟨text, rfl⟩

end Answers

/-! ## The requests -/

/-- The network that gives a reply for all requests that were sent so far, the last of which it
answers. Its state is these requests. -/
def Network.recorded (reply : List (Connection × Request) → Option Reply) :
    Network (List (Connection × Request)) := fun c request sent ↦
  (reply (sent ++ [(c, request)]), sent ++ [(c, request)])

section Requests

open Resolver

variable {reader : Reader} {reply : List (Connection × Request) → Option Reply} {c : Connection}

/-- What was sent once the parameters of some names were asked for. -/
def sentFor (c : Connection) (sent : List (Connection × Request)) (names : List String) :
    List (Connection × Request) :=
  sent ++ names.map fun name ↦ (c, .getParameter name)

theorem sentFor_append (sent : List (Connection × Request)) (names names' : List String) :
    sentFor c (sentFor c sent names) names' = sentFor c sent (names ++ names') := by
  simp [sentFor]

theorem get_recorded (reader : Reader) (reply : List (Connection × Request) → Option Reply)
    (c : Connection) (name : String) (sent : List (Connection × Request)) :
    (c.store reader (.recorded reply)).get name sent =
      (valueIn reader name (reply (sentFor c sent [name])), sentFor c sent [name]) := rfl

/-- A reply that says that there is no such parameter leads on to the next candidate. -/
theorem firstFound_of_absent {first : String} {sent : List (Connection × Request)}
    (h : SaysAbsent reader (reply (sentFor c sent [first]))) (rest : List String) :
    let out := firstFound (c.store reader (.recorded reply)) rest (sentFor c sent [first])
    ∃ events, firstFound (c.store reader (.recorded reply)) (first :: rest) sent =
      ⟨out.result, events, out.store⟩ := by
  obtain ⟨text, habsent⟩ := (isMissing_valueIn_iff first).2 h
  have hget := get_recorded reader reply c first sent
  rw [habsent] at hget
  rw [firstFound_of_missing (by rw [hget]), hget]
  exact ⟨_, rfl⟩

/-- The first reply that does not say so decides, and nothing is sent behind it. -/
theorem firstFound_of_reply {names : List String} {n : Nat} {name : String}
    (hname : names[n]? = some name) (sent : List (Connection × Request))
    (hbefore : ∀ m < n, SaysAbsent reader (reply (sentFor c sent (names.take (m + 1)))))
    (hreply : ¬ SaysAbsent reader (reply (sentFor c sent (names.take (n + 1))))) :
    let x := valueIn reader name (reply (sentFor c sent (names.take (n + 1))))
    ∃ events, firstFound (c.store reader (.recorded reply)) names sent =
      ⟨(x.map some).mapError (storeFailure name), events,
        sentFor c sent (names.take (n + 1))⟩ := by
  induction names generalizing n sent with
  | nil => cases hname
  | cons first rest ih =>
    cases n with
    | zero =>
      obtain rfl : first = name := by simpa using hname
      rw [List.take_succ_cons, List.take_zero] at hreply ⊢
      have hget := get_recorded reader reply c first sent
      cases hanswer : valueIn reader first (reply (sentFor c sent [first])) with
      | ok value =>
        rw [hanswer] at hget
        rw [firstFound_of_value (by rw [hget]), hget]
        exact ⟨_, rfl⟩
      | error e =>
        have he : ∀ text, e ≠ .notFound text := by
          rintro text rfl
          exact hreply ((isMissing_valueIn_iff first).1 ⟨text, hanswer⟩)
        rw [hanswer] at hget
        rw [firstFound_of_failure (by rw [hget]) he, hget]
        exact ⟨_, rfl⟩
    | succ n =>
      obtain ⟨events, hfirst⟩ := firstFound_of_absent (hbefore 0 (Nat.succ_pos n)) rest
      have hrest := ih hname (sentFor c sent [first])
      simp only [sentFor_append, List.singleton_append] at hrest
      obtain ⟨later, hlater⟩ := hrest (fun m hm ↦ hbefore (m + 1) (Nat.succ_lt_succ hm)) hreply
      rw [hfirst, hlater]
      exact ⟨events, rfl⟩

theorem firstFound_of_all_absent {names : List String} (sent : List (Connection × Request))
    (h : ∀ n < names.length, SaysAbsent reader (reply (sentFor c sent (names.take (n + 1))))) :
    ∃ events, firstFound (c.store reader (.recorded reply)) names sent =
      ⟨.ok none, events, sentFor c sent names⟩ := by
  induction names generalizing sent with
  | nil => exact ⟨[], by simp [firstFound, sentFor]⟩
  | cons first rest ih =>
    obtain ⟨events, hfirst⟩ := firstFound_of_absent (h 0 (Nat.succ_pos _)) rest
    have hrest := ih (sentFor c sent [first])
    simp only [sentFor_append, List.singleton_append] at hrest
    obtain ⟨later, hlater⟩ := hrest fun n hn ↦ h (n + 1) (Nat.succ_lt_succ hn)
    rw [hfirst, hlater]
    exact ⟨events, rfl⟩

end Requests

/-! ## The lookup -/

open Resolver

/-- A lookup over the parameter service sends one request for each candidate, in order, up to the
first reply that does not say that there is no such parameter, and each request asks for a decrypted
value. That reply decides, whatever the defaults are: with its value, as a service that cannot be
used, or as any other failure, and an error names the candidate. Only when every candidate is said
to be absent the defaults follow. -/
theorem lookupParameter_absorbs_absence {r : Resolver (List (Connection × Request))}
    {reader : Reader} {reply : List (Connection × Request) → Option Reply} {c : Connection}
    (hskip : r.options.skipRemote = false) (hr : r.store = some (c.store reader (.recorded reply)))
    (key : String) (inline : Option (List Char)) (sent : List (Connection × Request)) :
    let names := candidates r.options.rootPaths key
    let sentUpTo := fun n ↦ sent ++ (names.take n).map fun name ↦ (c, Request.getParameter name)
    let replyTo := fun n ↦ reply (sentUpTo (n + 1))
    let out := r.lookupParameter key inline sent
    (∀ n name, names[n]? = some name → (∀ m < n, SaysAbsent reader (replyTo m)) →
      ¬ SaysAbsent reader (replyTo n) →
        out.store = sentUpTo (n + 1) ∧
        (∀ value, HasValue reader value (replyTo n) → out.result = .ok value.toList) ∧
        (SaysUnusable reader (replyTo n) →
          ∃ text, out.result = .error (.backendUnavailable name text)) ∧
        ((∀ value, ¬ HasValue reader value (replyTo n)) → ¬ SaysUnusable reader (replyTo n) →
          ∃ text, out.result = .error (.backendOther name text))) ∧
    (names ≠ [] → (∀ n < names.length, SaysAbsent reader (replyTo n)) →
      out.store = sentUpTo names.length ∧
        out.result = match inline, r.options.defaultValue with
          | some text, _ => .ok text
          | none, some text => .ok text.toList
          | none, none => .error (.missingParameter key names)) ∧
    (names = [] → out = ⟨.error (.keyNotQualified key), [], sent⟩) ∧
    ∀ name, (Request.getParameter name).members =
      [("Name", .string name), ("WithDecryption", .bool true)] := by
  intro names sentUpTo replyTo out
  refine ⟨fun n name hname hbefore hreply ↦ ?_, fun hne habsent ↦ ?_, fun hnames ↦ ?_,
    fun name ↦ rfl⟩
  · have hne : names ≠ [] := List.ne_nil_of_mem (List.mem_of_getElem? hname)
    obtain ⟨events, hfound⟩ := firstFound_of_reply hname sent hbefore hreply
    have hout := lookupParameter_of_firstFound hskip hr hne hfound inline
    simp only [out, hout]
    refine ⟨rfl, fun value hvalue ↦ ?_, fun hunusable ↦ ?_, fun hvalue hunusable ↦ ?_⟩
    · have hanswer : valueIn reader name (replyTo n) = .ok value := valueIn_eq_ok_iff.2 hvalue
      exact congrArg (fun x ↦ (x.map String.toList).mapError (storeFailure name)) hanswer
    · obtain ⟨text, hanswer⟩ := (valueIn_unusable_iff name).2 hunusable
      exact ⟨text, congrArg (fun x ↦ (x.map String.toList).mapError (storeFailure name)) hanswer⟩
    · obtain ⟨text, hanswer⟩ := valueIn_eq_other name hvalue hreply hunusable
      exact ⟨text, congrArg (fun x ↦ (x.map String.toList).mapError (storeFailure name)) hanswer⟩
  · obtain ⟨events, hfound⟩ := firstFound_of_all_absent sent habsent
    obtain ⟨-, hsent, hresult⟩ := lookupParameter_of_firstFound_none hskip hr hne hfound inline
    refine ⟨?_, hresult⟩
    simp only [sentUpTo, List.take_length]
    exact hsent
  · simp only [out, lookupParameter_of_no_candidate hskip hnames, Run.fail_apply]

/-- The first reply is a success without a value, and there is no second one. The third candidate is
not asked for, and neither default hides that. -/
theorem lookupParameter_absorbs_absence_unreachable :
    let c : Connection := ⟨"us-west-2", none, none⟩
    let options : Options := { rootPaths := ["/a/", "/b/", "/c/"], defaultValue := some "default" }
    let reply := fun sent : List (Connection × Request) ↦
      if sent.length = 1 then some ⟨200, [], ""⟩ else none
    let store := c.store .json (.recorded reply)
    let r : Resolver (List (Connection × Request)) := ⟨options, some store⟩
    let out := r.lookupParameter "key" (some ['x']) []
    out.store = [(c, .getParameter "/a/key"), (c, .getParameter "/b/key")] ∧
      ∃ text, out.result = .error (.backendUnavailable "/b/key" text) := by
  intro c options reply store r out
  have hr : r.store = some (c.store .json (.recorded reply)) := rfl
  obtain ⟨hreply, -⟩ := lookupParameter_absorbs_absence rfl hr "key" (some ['x']) []
  have habsent : SaysAbsent .json (some ⟨200, [], ""⟩) := .inl ⟨none, rfl, nofun⟩
  obtain ⟨hsent, -, hunusable, -⟩ := hreply 1 "/b/key" rfl
    (fun m hm ↦ Nat.lt_one_iff.1 hm ▸ habsent) id
  exact ⟨hsent, hunusable trivial⟩

end ConfigResolver.Ssm
