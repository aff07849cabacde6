import ExtractApi.ClientResolution
import ExtractApi.LoadedJson

/-!
# Pricing a provider call (`OpenAIClient.complete`, `AnthropicClient.complete`)

What an SDK answers is read with `getattr`, so a response is any value: an object with some
attributes, a list, a scalar.  A count is read and the call priced before the first rung of
the failure ladder; the ladder is then a function of the price.

Money is exact here: `_token_cost` neither overflows nor rounds.
-/

namespace ExtractApi

open PythonText JsonValue LoadedJson RaisingProgram

/-! ## SDK objects -/

/-- A value in an SDK's response. -/
inductive SdkValue where
  | none
  | bool (b : Bool)
  | int (n : ℤ)
  | float (x : PyFloat)
  | str (s : PyStr)
  | list (items : List SdkValue)
  | object (attributes : List (PyStr × SdkValue))

namespace SdkValue

/-- `getattr(value, name, default)` -/
def getattr (value : SdkValue) (name : String) (default : SdkValue) : SdkValue :=
  match value with
  | object attributes =>
      ((attributes.find? fun a => decide (a.1 = py name)).map Prod.snd).getD default
  | _ => default

/-- `bool(value)`; an object is true. -/
def truthy : SdkValue → Bool
  | none => false
  | bool b => b
  | int n => decide (n ≠ 0)
  | float (.finite q) => decide (q ≠ 0)
  | float _ => true
  | str s => !s.isEmpty
  | list items => !items.isEmpty
  | object _ => true

/-- `value or other` -/
def orElse (value other : SdkValue) : SdkValue := if value.truthy then value else other

/-- `str(value)`; `str` renders what is no string. -/
def toText (str : SdkValue → PyStr) : SdkValue → PyStr
  | .str s => s
  | value => str value

/-- `value == text` -/
def isText (value : SdkValue) (text : String) : Bool :=
  match value with
  | str s => decide (s = py text)
  | _ => false

end SdkValue

/-- What leaves a call. -/
inductive CallRaise where
  | provider (error : ProviderError)
  | other (cls : PyClass)

/-- The items that `for item in value or []` goes through. -/
def SdkValue.items : SdkValue → Except CallRaise (List SdkValue)
  | .list items => .ok items
  | .str s => .ok (s.map fun c => .str [c])
  | value => if value.truthy then .error (.other .typeError) else .ok []

/-- `value in {names}`, which hashes the value. -/
def SdkValue.inSet (names : List String) : SdkValue → Except CallRaise Bool
  | .str s => .ok (decide (s ∈ names.map py))
  | .list _ | .object _ => .error (.other .typeError)
  | _ => .ok false

/-! ## Usage and price -/

/-- `_token_count` -/
def tokenCount (usage : SdkValue) (field : String) (provider : PyStr) : Except CallRaise ℕ :=
  match usage.getattr field .none with
  | .none => .ok 0
  | .int n =>
      if n < 0 then
        .error (.provider
          { kind := .error, provider := provider, detail := py ("invalid usage " ++ field),
            costUsd := 0 })
      else .ok n.toNat
  | _ =>
      .error (.provider
        { kind := .error, provider := provider, detail := py ("invalid usage " ++ field),
          costUsd := 0 })

/-- `_token_cost` -/
def tokenCost (settings : ClientSettings) (tokensIn tokensOut : ℕ) : ℚ :=
  (tokensIn * settings.priceInPerM + tokensOut * settings.priceOutPerM) / 1000000

/-! ## Raises -/

def raiseError (provider detail : PyStr) (costUsd : ℚ) : CallRaise :=
  .provider { kind := .error, provider := provider, detail := detail, costUsd := costUsd }

/-- `ProviderRefusal(provider=…, reason=…, cost_usd=…)` -/
def raiseRefusal (provider reason : PyStr) (costUsd : ℚ) : CallRaise :=
  .provider
    { kind := .refusal, provider := provider, detail := py "model refused: " ++ reason,
      costUsd := costUsd }

/-- `ProviderTruncation(provider=…, reason=…, cost_usd=…)` -/
def raiseTruncation (provider reason : PyStr) (costUsd : ℚ) : CallRaise :=
  .provider
    { kind := .truncation, provider := provider, detail := py "output truncated: " ++ reason,
      costUsd := costUsd }

section Calls

variable (str : SdkValue → PyStr) (settings : ClientSettings)

/-! ## Reading the output -/

/-- The refusal among the parts of one item. -/
def partRefusal (parts : List SdkValue) : Option PyStr :=
  (parts.find? fun part => (part.getattr "type" .none).isText "refusal").map fun part =>
    ((part.getattr "refusal" (.str [])).orElse (.str [])).toText str

def itemRefusal : List SdkValue → Except CallRaise (Option PyStr)
  | [] => .ok none
  | item :: items => do
      let parts ← (item.getattr "content" .none).items
      match partRefusal str parts with
      | some refusal => return some refusal
      | none => itemRefusal items

/-- `_first_refusal` -/
def firstRefusal (response : SdkValue) : Except CallRaise (Option PyStr) := do
  let items ← (response.getattr "output" .none).items
  itemRefusal str items

/-- `_anthropic_text` -/
def anthropicText (response : SdkValue) : Except CallRaise PyStr := do
  let blocks ← (response.getattr "content" .none).items
  return (blocks.filter fun block => (block.getattr "type" .none).isText "text").flatMap
    fun block => ((block.getattr "text" (.str [])).orElse (.str [])).toText str

/-! ## The ladders -/

/-- What both clients make of the text; a model that is no string is kept as its text. -/
def completion (provider text stopReason : PyStr) (response : SdkValue) (tokensIn tokensOut : ℕ)
    (latencyMs : ℚ) : Except CallRaise CompletionResult :=
  if strip text = [] then
    .error (raiseError provider (py "empty completion (no output text)")
      (tokenCost settings tokensIn tokensOut))
  else
    .ok {
      text := text
      model := ((response.getattr "model" .none).orElse (.str settings.model)).toText str
      tokensIn := tokensIn
      tokensOut := tokensOut
      costUsd := tokenCost settings tokensIn tokensOut
      latencyMs := latencyMs
      stopReason := stopReason }

/-- `OpenAIClient.complete`, once the call is priced. -/
def openAILadder (latencyMs : ℚ) (response : SdkValue) (tokensIn tokensOut : ℕ) :
    Except CallRaise CompletionResult := do
  let costUsd := tokenCost settings tokensIn tokensOut
  let status := response.getattr "status" .none
  match ← firstRefusal str response with
  | some refusal => throw (raiseRefusal (py "openai") refusal costUsd)
  | none =>
      if ← status.inSet ["failed", "cancelled"] then
        let detail := ((response.getattr "error" .none).getattr "message" .none).orElse status
        throw (raiseError (py "openai")
          (py "response " ++ status.toText str ++ py ": " ++ detail.toText str) costUsd)
      else if status.isText "incomplete" then
        let details := response.getattr "incomplete_details" .none
        let reason := ((details.getattr "reason" .none).orElse (.str (py "unknown"))).toText str
        if reason = py "content_filter" then throw (raiseRefusal (py "openai") reason costUsd)
        else throw (raiseTruncation (py "openai") reason costUsd)
      else
        completion str settings (py "openai")
          (((response.getattr "output_text" (.str [])).orElse (.str [])).toText str)
          ((status.orElse (.str (py "completed"))).toText str) response tokensIn tokensOut latencyMs

/-- `AnthropicClient.complete`, once the call is priced. -/
def anthropicLadder (latencyMs : ℚ) (response : SdkValue) (tokensIn tokensOut : ℕ) :
    Except CallRaise CompletionResult := do
  let costUsd := tokenCost settings tokensIn tokensOut
  let stopReason := response.getattr "stop_reason" .none
  if stopReason.isText "refusal" then
    let category := (response.getattr "stop_details" .none).getattr "category" .none
    throw (raiseRefusal (py "anthropic")
      ((category.orElse (.str (py "refusal"))).toText str) costUsd)
  else if ← stopReason.inSet ["max_tokens", "pause_turn", "model_context_window_exceeded"] then
    throw (raiseTruncation (py "anthropic") (stopReason.toText str) costUsd)
  else
    let text ← anthropicText str response
    completion str settings (py "anthropic") text
      ((stopReason.orElse (.str (py "end_turn"))).toText str) response tokensIn tokensOut latencyMs

/-! ## The calls -/

/-- How a call of the SDK ends; the SDK's own exceptions come with their text. -/
inductive SdkAnswer where
  | timedOut (detail : PyStr)
  | failed (detail : PyStr)
  | response (response : SdkValue)

def CallOutcome.ofExcept : Except CallRaise CompletionResult → CallOutcome
  | .ok result => .returned result
  | .error (.provider error) => .raised error
  | .error (.other cls) => .crashed cls.name

/-- The part of `complete` that both clients share. -/
def completeWith (provider : PyStr) (ladder : SdkValue → ℕ → ℕ → Except CallRaise CompletionResult)
    (answer : SdkAnswer) : CallOutcome :=
  match answer with
  | .timedOut detail =>
      .raised { kind := .timeout, provider := provider, detail := detail, costUsd := 0 }
  | .failed detail =>
      .raised { kind := .error, provider := provider, detail := detail, costUsd := 0 }
  | .response response => .ofExcept do
      let usage := response.getattr "usage" .none
      let tokensIn ← tokenCount usage "input_tokens" provider
      let tokensOut ← tokenCount usage "output_tokens" provider
      ladder response tokensIn tokensOut

/-- `OpenAIClient.complete` -/
def openAIComplete (latencyMs : ℚ) (answer : SdkAnswer) : CallOutcome :=
  completeWith (py "openai") (openAILadder str settings latencyMs) answer

/-- `AnthropicClient.complete` -/
def anthropicComplete (latencyMs : ℚ) (answer : SdkAnswer) : CallOutcome :=
  completeWith (py "anthropic") (anthropicLadder str settings latencyMs) answer

end Calls

/-! ## What a ladder ends with -/

/-- Whatever is returned or raised for the provider carries the cost. -/
def Carries (costUsd : ℚ) : Except CallRaise CompletionResult → Prop
  | .ok result => result.costUsd = costUsd
  | .error (.provider error) => error.costUsd = costUsd
  | .error (.other _) => True

/-- An exception that is no provider's. -/
def IsOther (raised : CallRaise) : Prop := ∃ cls, raised = .other cls

theorem Carries.bind {α : Type} {costUsd : ℚ} {x : Except CallRaise α}
    {k : α → Except CallRaise CompletionResult} (hx : RaisesOnly IsOther x)
    (hk : ∀ a, Carries costUsd (k a)) : Carries costUsd (x >>= k) := by
  rcases x with raised | a
  · obtain ⟨cls, rfl⟩ := hx raised rfl
    exact trivial
  · exact hk a

theorem items_raisesOnly (value : SdkValue) : RaisesOnly IsOther value.items := by
  unfold SdkValue.items
  split
  · exact .ok _
  · exact .ok _
  · split_ifs
    · exact .error ⟨_, rfl⟩
    · exact .ok _

theorem inSet_raisesOnly (names : List String) (value : SdkValue) :
    RaisesOnly IsOther (value.inSet names) := by
  unfold SdkValue.inSet
  split
  · exact .ok _
  · exact .error ⟨_, rfl⟩
  · exact .error ⟨_, rfl⟩
  · exact .ok _

section Ladders

variable (str : SdkValue → PyStr) (settings : ClientSettings)

theorem itemRefusal_raisesOnly (items : List SdkValue) :
    RaisesOnly IsOther (itemRefusal str items) := by
  induction items with
  | nil => exact .ok none
  | cons item items ih =>
    apply (items_raisesOnly _).bind
    intro parts
    rcases partRefusal str parts with _ | refusal
    · exact ih
    · exact .ok _

theorem firstRefusal_raisesOnly (response : SdkValue) :
    RaisesOnly IsOther (firstRefusal str response) :=
  (items_raisesOnly _).bind (itemRefusal_raisesOnly str)

theorem anthropicText_raisesOnly (response : SdkValue) :
    RaisesOnly IsOther (anthropicText str response) :=
  (items_raisesOnly _).bind fun _ => .ok _

theorem completion_carries (provider text stopReason : PyStr) (response : SdkValue)
    (tokensIn tokensOut : ℕ) (latencyMs : ℚ) :
    Carries (tokenCost settings tokensIn tokensOut)
      (completion str settings provider text stopReason response tokensIn tokensOut latencyMs) := by
  unfold completion
  split_ifs
  · exact rfl
  · exact rfl

/-- Every rung of the two ladders carries the price. -/
theorem openAILadder_carries (latencyMs : ℚ) (response : SdkValue) (tokensIn tokensOut : ℕ) :
    Carries (tokenCost settings tokensIn tokensOut)
      (openAILadder str settings latencyMs response tokensIn tokensOut) := by
  unfold openAILadder
  apply Carries.bind (firstRefusal_raisesOnly str response)
  intro refusal
  rcases refusal with _ | refusal
  · apply Carries.bind (inSet_raisesOnly _ _)
    intro failed
    rcases failed with _ | _
    · by_cases hincomplete : ((response.getattr "status" .none).isText "incomplete") = true
      · simp only [hincomplete, Bool.false_eq_true, if_false, if_true]
        split_ifs
        · exact rfl
        · exact rfl
      · simp only [hincomplete, Bool.false_eq_true, if_false]
        exact completion_carries str settings _ _ _ _ _ _ _
    · exact rfl
  · exact rfl

theorem anthropicLadder_carries (latencyMs : ℚ) (response : SdkValue) (tokensIn tokensOut : ℕ) :
    Carries (tokenCost settings tokensIn tokensOut)
      (anthropicLadder str settings latencyMs response tokensIn tokensOut) := by
  unfold anthropicLadder
  by_cases hrefused : ((response.getattr "stop_reason" .none).isText "refusal") = true
  · simp only [hrefused, if_true]
    exact rfl
  · simp only [hrefused, Bool.false_eq_true, if_false]
    apply Carries.bind (inSet_raisesOnly _ _)
    intro truncated
    rcases truncated with _ | _
    · apply Carries.bind (anthropicText_raisesOnly str response)
      intro text
      exact completion_carries str settings _ _ _ _ _ _ _
    · exact rfl

/-! ## Successes -/

/-- The value is absent or a list. -/
def OptionalList (value : SdkValue) : Prop := value = .none ∨ ∃ items, value = .list items

/-- The value is absent or a string. -/
def OptionalText (value : SdkValue) : Prop := value = .none ∨ ∃ text, value = .str text

/-- A refusal part somewhere in the output. -/
def HasRefusalPart (response : SdkValue) : Prop :=
  ∃ items item parts part, response.getattr "output" .none = .list items ∧ item ∈ items ∧
    item.getattr "content" .none = .list parts ∧ part ∈ parts ∧
    part.getattr "type" .none = .str (py "refusal")

/-- The attribute is one of the names. -/
def OneOf (value : SdkValue) (names : List String) : Prop := ∃ name ∈ names, value = .str (py name)

theorem isText_iff {value : SdkValue} {text : String} :
    value.isText text = true ↔ value = .str (py text) := by
  cases value <;> simp [SdkValue.isText]

theorem inSet_eq_ok_true_iff {value : SdkValue} {names : List String} :
    value.inSet names = .ok true ↔ OneOf value names := by
  unfold OneOf
  cases value <;> simp [SdkValue.inSet, eq_comm]

theorem partRefusal_eq_none_iff {parts : List SdkValue} :
    partRefusal str parts = none ↔
      ∀ part ∈ parts, part.getattr "type" .none ≠ .str (py "refusal") := by
  unfold partRefusal
  rw [Option.map_eq_none_iff, List.find?_eq_none]
  simp only [isText_iff, ne_eq]

/-- No refusal is found only where no part is one. -/
theorem parts_of_itemRefusal {items : List SdkValue} (h : itemRefusal str items = .ok none) :
    ∀ item ∈ items, ∀ parts, item.getattr "content" .none = .list parts →
      ∀ part ∈ parts, part.getattr "type" .none ≠ .str (py "refusal") := by
  induction items with
  | nil =>
    intro _ hitem
    exact absurd hitem List.not_mem_nil
  | cons item items ih =>
    obtain ⟨parts, hparts, hrest⟩ := bind_eq_ok_iff.mp h
    rcases hfound : partRefusal str parts with _ | refusal
    · rw [hfound] at hrest
      intro item' hitem
      rcases List.mem_cons.mp hitem with rfl | hitem
      · intro parts' hlist
        rw [hlist] at hparts
        cases hparts
        exact (partRefusal_eq_none_iff str).mp hfound
      · exact ih hrest item' hitem
    · rw [hfound] at hrest
      cases hrest

theorem not_hasRefusalPart {response : SdkValue} (h : firstRefusal str response = .ok none) :
    ¬ HasRefusalPart response := by
  rintro ⟨items, item, parts, part, houtput, hitem, hcontent, hpart, htype⟩
  obtain ⟨items', hitems, hrest⟩ := bind_eq_ok_iff.mp h
  rw [houtput] at hitems
  cases hitems
  exact parts_of_itemRefusal str hrest item hitem parts hcontent part hpart htype

theorem strip_of_completion {provider text stopReason : PyStr} {response : SdkValue}
    {tokensIn tokensOut : ℕ} {latencyMs : ℚ} {result : CompletionResult}
    (h : completion str settings provider text stopReason response tokensIn tokensOut latencyMs =
      .ok result) : strip result.text ≠ [] := by
  unfold completion at h
  split_ifs at h with hblank
  cases h
  exact hblank

theorem openAILadder_eq_ok {latencyMs : ℚ} {response : SdkValue} {tokensIn tokensOut : ℕ}
    {result : CompletionResult}
    (h : openAILadder str settings latencyMs response tokensIn tokensOut = .ok result) :
    strip result.text ≠ [] ∧ ¬ HasRefusalPart response ∧
      ¬ OneOf (response.getattr "status" .none) ["failed", "cancelled", "incomplete"] := by
  obtain ⟨refusal, hrefusal, h⟩ := bind_eq_ok_iff.mp h
  rcases refusal with _ | refusal
  · obtain ⟨failed, hfailed, h⟩ := bind_eq_ok_iff.mp h
    rcases failed with _ | _
    · by_cases hincomplete : ((response.getattr "status" .none).isText "incomplete") = true
      · simp only [hincomplete, Bool.false_eq_true, if_false, if_true] at h
        split_ifs at h
      · simp only [hincomplete, Bool.false_eq_true, if_false] at h
        refine ⟨strip_of_completion str settings h, not_hasRefusalPart str hrefusal, ?_⟩
        rintro ⟨name, hname, hstatus⟩
        simp only [List.mem_cons, List.not_mem_nil, or_false] at hname
        rcases hname with rfl | rfl | rfl
        · have htrue := inSet_eq_ok_true_iff.mpr
            (show OneOf _ ["failed", "cancelled"] from ⟨"failed", by simp, hstatus⟩)
          cases hfailed.symm.trans htrue
        · have htrue := inSet_eq_ok_true_iff.mpr
            (show OneOf _ ["failed", "cancelled"] from ⟨"cancelled", by simp, hstatus⟩)
          cases hfailed.symm.trans htrue
        · exact hincomplete (isText_iff.mpr hstatus)
    · cases h
  · cases h

theorem anthropicLadder_eq_ok {latencyMs : ℚ} {response : SdkValue} {tokensIn tokensOut : ℕ}
    {result : CompletionResult}
    (h : anthropicLadder str settings latencyMs response tokensIn tokensOut = .ok result) :
    strip result.text ≠ [] ∧
      ¬ OneOf (response.getattr "stop_reason" .none)
        ["refusal", "max_tokens", "pause_turn", "model_context_window_exceeded"] := by
  unfold anthropicLadder at h
  by_cases hrefused : ((response.getattr "stop_reason" .none).isText "refusal") = true
  · simp only [hrefused, if_true] at h
    cases h
  · simp only [hrefused, Bool.false_eq_true, if_false] at h
    obtain ⟨truncated, htruncated, h⟩ := bind_eq_ok_iff.mp h
    rcases truncated with _ | _
    · obtain ⟨text, -, h⟩ := bind_eq_ok_iff.mp h
      refine ⟨strip_of_completion str settings h, ?_⟩
      rintro ⟨name, hname, hstop⟩
      rcases List.mem_cons.mp hname with rfl | hname
      · exact hrefused (isText_iff.mpr hstop)
      · have htrue := inSet_eq_ok_true_iff.mpr (show OneOf _ _ from ⟨name, hname, hstop⟩)
        cases htruncated.symm.trans htrue
    · cases h

/-! ## Responses of the documented shape -/

/-- Lists are lists or absent, and the status is a string or absent. -/
structure OpenAIShaped (response : SdkValue) : Prop where
  status : OptionalText (response.getattr "status" .none)
  output : OptionalList (response.getattr "output" .none)
  content : ∀ items, response.getattr "output" .none = .list items → ∀ item ∈ items,
    OptionalList (item.getattr "content" .none)

structure AnthropicShaped (response : SdkValue) : Prop where
  stopReason : OptionalText (response.getattr "stop_reason" .none)
  content : OptionalList (response.getattr "content" .none)

/-- No exception but the provider's. -/
def NotOther {α : Type} (x : Except CallRaise α) : Prop := ∀ cls, x ≠ .error (.other cls)

theorem NotOther.bind {α β : Type} {x : Except CallRaise α} {k : α → Except CallRaise β}
    (hx : NotOther x) (hk : ∀ a, NotOther (k a)) : NotOther (x >>= k) := by
  rcases x with raised | a
  · intro cls h
    cases h
    exact hx cls rfl
  · exact hk a

theorem NotOther.ok {α : Type} (a : α) : NotOther (.ok a) := by
  intro cls h
  cases h

theorem NotOther.provider {α : Type} (error : ProviderError) :
    NotOther (.error (.provider error) : Except CallRaise α) := by
  intro cls h
  cases h

theorem notOther_items {value : SdkValue} (h : OptionalList value) : NotOther value.items := by
  rcases h with rfl | ⟨items, rfl⟩
  · exact .ok _
  · exact .ok _

theorem notOther_inSet {value : SdkValue} (h : OptionalText value) (names : List String) :
    NotOther (value.inSet names) := by
  rcases h with rfl | ⟨text, rfl⟩
  · exact .ok _
  · exact .ok _

theorem notOther_itemRefusal {items : List SdkValue}
    (h : ∀ item ∈ items, OptionalList (item.getattr "content" .none)) :
    NotOther (itemRefusal str items) := by
  induction items with
  | nil => exact .ok none
  | cons item items ih =>
    apply (notOther_items (h item List.mem_cons_self)).bind
    intro parts
    rcases partRefusal str parts with _ | refusal
    · exact ih fun item' hitem => h item' (List.mem_cons_of_mem _ hitem)
    · exact .ok _

theorem notOther_completion (provider text stopReason : PyStr) (response : SdkValue)
    (tokensIn tokensOut : ℕ) (latencyMs : ℚ) :
    NotOther (completion str settings provider text stopReason response tokensIn tokensOut
      latencyMs) := by
  unfold completion
  split_ifs
  · exact .provider _
  · exact .ok _

theorem notOther_openAILadder {response : SdkValue} (h : OpenAIShaped response) (latencyMs : ℚ)
    (tokensIn tokensOut : ℕ) :
    NotOther (openAILadder str settings latencyMs response tokensIn tokensOut) := by
  have hfirst : NotOther (firstRefusal str response) := by
    unfold firstRefusal
    rcases h.output with hnone | ⟨items, hlist⟩
    · rw [hnone]
      exact .ok none
    · rw [hlist]
      exact notOther_itemRefusal str (h.content items hlist)
  unfold openAILadder
  apply hfirst.bind
  intro refusal
  rcases refusal with _ | refusal
  · apply (notOther_inSet h.status _).bind
    intro failed
    rcases failed with _ | _
    · by_cases hincomplete : ((response.getattr "status" .none).isText "incomplete") = true
      · simp only [hincomplete, Bool.false_eq_true, if_false, if_true]
        split_ifs
        · exact .provider _
        · exact .provider _
      · simp only [hincomplete, Bool.false_eq_true, if_false]
        exact notOther_completion str settings _ _ _ _ _ _ _
    · exact .provider _
  · exact .provider _

theorem notOther_anthropicLadder {response : SdkValue} (h : AnthropicShaped response)
    (latencyMs : ℚ) (tokensIn tokensOut : ℕ) :
    NotOther (anthropicLadder str settings latencyMs response tokensIn tokensOut) := by
  unfold anthropicLadder
  by_cases hrefused : ((response.getattr "stop_reason" .none).isText "refusal") = true
  · simp only [hrefused, if_true]
    exact .provider _
  · simp only [hrefused, Bool.false_eq_true, if_false]
    apply (notOther_inSet h.stopReason _).bind
    intro truncated
    rcases truncated with _ | _
    · apply ((notOther_items h.content).bind fun blocks => .ok _).bind
      intro text
      exact notOther_completion str settings _ _ _ _ _ _ _
    · exact .provider _

end Ladders

/-! ## Both clients -/

/-- A token count: absent, or a non-negative integer. -/
inductive IsCount : SdkValue → ℕ → Prop
  | absent : IsCount .none 0
  | int (n : ℕ) : IsCount (.int n) n

/-- The counts of the response's usage. -/
def Counts (response : SdkValue) (tokensIn tokensOut : ℕ) : Prop :=
  IsCount ((response.getattr "usage" .none).getattr "input_tokens" .none) tokensIn ∧
    IsCount ((response.getattr "usage" .none).getattr "output_tokens" .none) tokensOut

theorem tokenCount_of_isCount {usage : SdkValue} {field : String} {provider : PyStr} {n : ℕ}
    (h : IsCount (usage.getattr field .none) n) : tokenCount usage field provider = .ok n := by
  unfold tokenCount
  rcases hvalue : usage.getattr field .none with _ | _ | m | _ | _ | _ | _
  all_goals
    rw [hvalue] at h
    cases h
  · rfl
  · simp

/-- Anything else is refused before the call is priced. -/
theorem tokenCount_of_not_isCount (usage : SdkValue) (field : String) (provider : PyStr)
    (h : ∀ n, ¬ IsCount (usage.getattr field .none) n) :
    ∃ error : ProviderError, tokenCount usage field provider = .error (.provider error) ∧
      error.kind = .error := by
  unfold tokenCount
  rcases hvalue : usage.getattr field .none with _ | _ | m | _ | _ | _ | _
  case none => exact absurd .absent (hvalue ▸ h 0)
  case int =>
    by_cases hneg : m < 0
    · simp only [if_pos hneg]
      exact ⟨_, rfl, rfl⟩
    · obtain ⟨n, rfl⟩ := Int.eq_ofNat_of_zero_le (not_lt.mp hneg)
      exact absurd (.int n) (hvalue ▸ h n)
  all_goals exact ⟨_, rfl, rfl⟩

/-- What is returned or raised for the provider has the cost. -/
def CallOutcome.Priced (costUsd : ℚ) : CallOutcome → Prop
  | .returned result => result.costUsd = costUsd
  | .raised error => error.costUsd = costUsd
  | .crashed _ => True

/-- A client prices every response, however it ends. -/
structure PricesEvery (settings : ClientSettings) (complete : SdkAnswer → CallOutcome)
    (Succeeds Shaped : SdkValue → Prop) : Prop where
  priced : ∀ response tokensIn tokensOut, Counts response tokensIn tokensOut →
    (complete (.response response)).Priced
      ((tokensIn * settings.priceInPerM + tokensOut * settings.priceOutPerM) / 10 ^ 6)
  malformed : ∀ response, (¬ ∃ tokensIn tokensOut, Counts response tokensIn tokensOut) →
    ∃ error, complete (.response response) = .raised error ∧ error.kind = .error
  success : ∀ response result, complete (.response response) = .returned result →
    strip result.text ≠ [] ∧ Succeeds response
  total : ∀ response, Shaped response → ∀ cls, complete (.response response) ≠ .crashed cls

theorem pricesEvery_of_ladder {settings : ClientSettings} (provider : PyStr)
    {ladder : SdkValue → ℕ → ℕ → Except CallRaise CompletionResult}
    {Succeeds Shaped : SdkValue → Prop}
    (hcarries : ∀ response tokensIn tokensOut,
      Carries (tokenCost settings tokensIn tokensOut) (ladder response tokensIn tokensOut))
    (hsuccess : ∀ response tokensIn tokensOut result,
      ladder response tokensIn tokensOut = .ok result →
        strip result.text ≠ [] ∧ Succeeds response)
    (htotal : ∀ response, Shaped response → ∀ tokensIn tokensOut,
      NotOther (ladder response tokensIn tokensOut)) :
    PricesEvery settings (completeWith provider ladder) Succeeds Shaped := by
  -- with both counts at hand the rest is the ladder; without one it is never reached
  have hcounted : ∀ {response tokensIn tokensOut}, Counts response tokensIn tokensOut →
      completeWith provider ladder (.response response) =
        .ofExcept (ladder response tokensIn tokensOut) := by
    rintro response tokensIn tokensOut ⟨hin, hout⟩
    unfold completeWith
    simp only [tokenCount_of_isCount hin, tokenCount_of_isCount hout]
    rfl
  have hrefused : ∀ {response}, (¬ ∃ tokensIn tokensOut, Counts response tokensIn tokensOut) →
      ∃ error, completeWith provider ladder (.response response) = .raised error ∧
        error.kind = .error := by
    intro response hnone
    by_cases hin : ∃ n, IsCount
        ((response.getattr "usage" .none).getattr "input_tokens" .none) n
    · obtain ⟨tokensIn, hin⟩ := hin
      obtain ⟨error, herror, hkind⟩ := tokenCount_of_not_isCount
        (response.getattr "usage" .none) "output_tokens" provider
        fun n hout => hnone ⟨tokensIn, n, hin, hout⟩
      refine ⟨error, ?_, hkind⟩
      unfold completeWith
      simp only [tokenCount_of_isCount hin, herror]
      rfl
    · obtain ⟨error, herror, hkind⟩ := tokenCount_of_not_isCount
        (response.getattr "usage" .none) "input_tokens" provider
        fun n hn => hin ⟨n, hn⟩
      refine ⟨error, ?_, hkind⟩
      unfold completeWith
      simp only [herror]
      rfl
  -- the four clauses, each by what the ladder does or by the refusal
  constructor
  · intro response tokensIn tokensOut hcounts
    rw [hcounted hcounts]
    have hcost : (tokensIn * settings.priceInPerM + tokensOut * settings.priceOutPerM) / 10 ^ 6 =
        tokenCost settings tokensIn tokensOut := by
      unfold tokenCost
      norm_num
    rw [hcost]
    have hladder := hcarries response tokensIn tokensOut
    rcases hends : ladder response tokensIn tokensOut with (error | cls) | result
    · rw [hends] at hladder
      exact hladder
    · exact trivial
    · rw [hends] at hladder
      exact hladder
  · intro response
    exact hrefused
  · intro response result h
    by_cases hcounts : ∃ tokensIn tokensOut, Counts response tokensIn tokensOut
    · obtain ⟨tokensIn, tokensOut, hcounts⟩ := hcounts
      rw [hcounted hcounts] at h
      rcases hladder : ladder response tokensIn tokensOut with (error | cls) | result'
      · rw [hladder] at h
        cases h
      · rw [hladder] at h
        cases h
      · rw [hladder] at h
        cases h
        exact hsuccess response tokensIn tokensOut _ hladder
    · obtain ⟨error, herror, -⟩ := hrefused hcounts
      cases h.symm.trans herror
  · intro response hshaped cls h
    by_cases hcounts : ∃ tokensIn tokensOut, Counts response tokensIn tokensOut
    · obtain ⟨tokensIn, tokensOut, hcounts⟩ := hcounts
      rw [hcounted hcounts] at h
      have hladder := htotal response hshaped tokensIn tokensOut
      rcases hends : ladder response tokensIn tokensOut with (error | cls') | result'
      · rw [hends] at h
        cases h
      · exact hladder cls' hends
      · rw [hends] at h
        cases h
    · obtain ⟨error, herror, -⟩ := hrefused hcounts
      cases h.symm.trans herror

/-- The SDKs as the vendors that clients are built for: each answer with the time it took. -/
def sdkVendors (str : SdkValue → PyStr) (openai anthropic : ClientSettings → ℕ → ℚ × SdkAnswer)
    (conversions : Vendors) : Vendors :=
  { conversions with
    openai := fun settings n =>
      openAIComplete str settings (openai settings n).1 (openai settings n).2
    anthropic := fun settings n =>
      anthropicComplete str settings (anthropic settings n).1 (anthropic settings n).2 }

/-- **Both clients price every billed response**, whichever rung of the ladder it ends on, and
    neither takes a failed response for a success. -/
theorem both_clients_price_every (str : SdkValue → PyStr) (settings : ClientSettings)
    (latencyMs : ℚ) :
    PricesEvery settings (openAIComplete str settings latencyMs)
        (fun response => ¬ HasRefusalPart response ∧
          ¬ OneOf (response.getattr "status" .none) ["failed", "cancelled", "incomplete"])
        OpenAIShaped ∧
      PricesEvery settings (anthropicComplete str settings latencyMs)
        (fun response => ¬ OneOf (response.getattr "stop_reason" .none)
          ["refusal", "max_tokens", "pause_turn", "model_context_window_exceeded"])
        AnthropicShaped := by
  constructor
  · apply pricesEvery_of_ladder
    · exact openAILadder_carries str settings latencyMs
    · intro response tokensIn tokensOut result h
      exact openAILadder_eq_ok str settings h
    · intro response hshaped tokensIn tokensOut
      exact notOther_openAILadder str settings hshaped latencyMs tokensIn tokensOut
  · apply pricesEvery_of_ladder
    · exact anthropicLadder_carries str settings latencyMs
    · intro response tokensIn tokensOut result h
      exact anthropicLadder_eq_ok str settings h
    · intro response hshaped tokensIn tokensOut
      exact notOther_anthropicLadder str settings hshaped latencyMs tokensIn tokensOut

/-! ### A refusal and a truncation -/

def sampleSettings : ClientSettings where
  baseUrl := none
  apiKey := none
  model := py "m"
  priceInPerM := 2
  priceOutPerM := 4
  timeoutS := 60
  maxRetries := 0

/-- No value of the samples is shown. -/
def sampleStr : SdkValue → PyStr := fun _ => []

/-- A million tokens in and half a million out. -/
def sampleUsage : SdkValue :=
  .object [(py "input_tokens", .int 1000000), (py "output_tokens", .int 500000)]

def refusalPart : SdkValue := .object [(py "type", .str (py "refusal"))]

/-- A refusal in the second item of a response that calls itself completed. -/
def refusedResponse : SdkValue :=
  .object [(py "usage", sampleUsage), (py "status", .str (py "completed")),
    (py "output", .list [.object [], .object [(py "content", .list [refusalPart])]])]

/-- A message that was cut off. -/
def truncatedResponse : SdkValue :=
  .object [(py "usage", sampleUsage), (py "stop_reason", .str (py "max_tokens")),
    (py "content", .list [])]

theorem sampleUsage_counts {response : SdkValue}
    (h : response.getattr "usage" .none = sampleUsage) : Counts response 1000000 500000 := by
  rw [Counts, h]
  exact ⟨.int 1000000, .int 500000⟩

theorem both_clients_price_every_refused :
    ((openAIComplete sampleStr sampleSettings 1 (.response refusedResponse)).Priced 4 ∧
        ∀ result, openAIComplete sampleStr sampleSettings 1 (.response refusedResponse) ≠
          .returned result) ∧
      (anthropicComplete sampleStr sampleSettings 1 (.response truncatedResponse)).Priced 4 ∧
      ∀ cls, anthropicComplete sampleStr sampleSettings 1 (.response truncatedResponse) ≠
        .crashed cls := by
  obtain ⟨hopenai, hanthropic⟩ := both_clients_price_every sampleStr sampleSettings 1
  have hprice : (((1000000 : ℕ) : ℚ) * sampleSettings.priceInPerM +
      ((500000 : ℕ) : ℚ) * sampleSettings.priceOutPerM) / 10 ^ 6 = 4 := by decide +kernel
  refine ⟨⟨?_, ?_⟩, ?_, ?_⟩
  · rw [← hprice]
    exact hopenai.priced refusedResponse _ _ (sampleUsage_counts rfl)
  · -- a response with a refusal part is no success
    intro result hreturned
    exact (hopenai.success refusedResponse result hreturned).2.1
      ⟨_, .object [(py "content", .list [refusalPart])], [refusalPart], refusalPart, rfl,
        by simp, rfl, by simp, rfl⟩
  · rw [← hprice]
    exact hanthropic.priced truncatedResponse _ _ (sampleUsage_counts rfl)
  · exact hanthropic.total truncatedResponse
      ⟨.inr ⟨py "max_tokens", rfl⟩, .inr ⟨[], rfl⟩⟩

end ExtractApi
