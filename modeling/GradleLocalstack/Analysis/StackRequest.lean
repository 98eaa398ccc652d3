import GradleLocalstack.Analysis.RetryRule
import GradleLocalstack.Program.CreateStack

/-!
# The request for a stack and the configuration of its task

`configured` is what a task says of each property, `carried` is what a request says of it;
empty strings and empty collections say nothing.  The request that `CreateCFStackTask`
submits agrees with its task but in two properties: it never carries the tags, and it
always carries `OnFailure`.
-/

set_option autoImplicit false

namespace GradleLocalstack.Analysis

open Foundation GradleLocalstack.Model GradleLocalstack.Program

/-! ## Properties of a stack -/

/-- The properties of a stack. -/
inductive StackProperty where
  | stackName
  | templateBody
  | capabilities
  | clientRequestToken
  | disableRollback
  | enableTerminationProtection
  | notificationARNs
  | onFailure
  | parameters
  | resourceTypes
  | roleARN
  | rollbackConfiguration
  | stackPolicyBody
  | timeoutInMinutes
  | tags
  deriving DecidableEq

/-- A value of a property. -/
inductive PropertyValue (Parameter RollbackConfiguration Tag : Type) where
  | text (value : String)
  | flag (value : Bool)
  | number (value : ℤ)
  | texts (values : List String)
  | parameters (values : List Parameter)
  | rollbackConfiguration (value : RollbackConfiguration)
  | tags (values : List Tag)
  deriving DecidableEq

section Properties

variable {Parameter RollbackConfiguration Tag : Type}

/-- What a string says of a property. -/
def givenText : Option String → Option (PropertyValue Parameter RollbackConfiguration Tag)
  | none => none
  | some value => if value = "" then none else some (.text value)

/-- What a collection says of a property. -/
def givenAll {α : Type} (wrap : List α → PropertyValue Parameter RollbackConfiguration Tag) :
    Option (List α) → Option (PropertyValue Parameter RollbackConfiguration Tag)
  | none => none
  | some [] => none
  | some (a :: values) => some (wrap (a :: values))

/-- What a task says of its properties; the template and the policy are files. -/
def configured (files : InputFiles)
    (task : CreateCFStackTask Parameter RollbackConfiguration Tag) :
    StackProperty → Option (PropertyValue Parameter RollbackConfiguration Tag)
  | .stackName => givenText task.stackName
  | .templateBody => givenText (files.toString task.cfTemplate).toOption
  | .capabilities => givenAll .texts task.capabilities
  | .clientRequestToken => givenText task.clientRequestToken
  | .disableRollback => task.disableRollback.map .flag
  | .enableTerminationProtection => task.enableTerminationProtection.map .flag
  | .notificationARNs => givenAll .texts task.notificationArns
  | .onFailure => task.onFailure.map fun onFailure => .text onFailure.toString
  | .parameters => givenAll .parameters task.parameters
  | .resourceTypes => givenAll .texts task.resourceTypes
  | .roleARN => givenText task.roleArn
  | .rollbackConfiguration => task.rollbackConfiguration.map .rollbackConfiguration
  | .stackPolicyBody => givenText (files.toString task.stackPolicy).toOption
  | .timeoutInMinutes => task.timeoutInMinutes.map .number
  | .tags => givenAll .tags task.tags

/-- What a request says of the properties of the stack. -/
def carried (request : CreateStackRequest Parameter RollbackConfiguration Tag) :
    StackProperty → Option (PropertyValue Parameter RollbackConfiguration Tag)
  | .stackName => givenText request.stackName
  | .templateBody => givenText request.templateBody
  | .capabilities => givenAll .texts request.capabilities
  | .clientRequestToken => givenText request.clientRequestToken
  | .disableRollback => request.disableRollback.map .flag
  | .enableTerminationProtection => request.enableTerminationProtection.map .flag
  | .notificationARNs => givenAll .texts request.notificationARNs
  | .onFailure => givenText request.onFailure
  | .parameters => givenAll .parameters request.parameters
  | .resourceTypes => givenAll .texts request.resourceTypes
  | .roleARN => givenText request.roleARN
  | .rollbackConfiguration => request.rollbackConfiguration.map .rollbackConfiguration
  | .stackPolicyBody => givenText request.stackPolicyBody
  | .timeoutInMinutes => request.timeoutInMinutes.map .number
  | .tags => givenAll .tags request.tags

/-- The request says what its task says, up to the default of `OnFailure`. -/
structure SaysWhatWasConfigured (files : InputFiles)
    (task : CreateCFStackTask Parameter RollbackConfiguration Tag)
    (request : CreateStackRequest Parameter RollbackConfiguration Tag) : Prop where
  carries_configured : ∀ p value, configured files task p = some value →
    carried request p = some value
  nothing_else : ∀ p value, carried request p = some value →
    (configured files task p).isSome ∨ p = .onFailure ∧ value = .text "ROLLBACK"
  not_both : (carried request .disableRollback).isSome → (carried request .onFailure).isSome →
    (configured files task .disableRollback).isSome ∧ (configured files task .onFailure).isSome

/-- The template can be read, and so can the policy if there is one. -/
def Readable (files : InputFiles)
    (task : CreateCFStackTask Parameter RollbackConfiguration Tag) : Prop :=
  (∃ text, files.toString task.cfTemplate = .ok text) ∧
    ∀ stackPolicy, task.stackPolicy = some stackPolicy →
      ∃ text, files.toString (some stackPolicy) = .ok text

/-- The task builds the request, from what it reads of its files. -/
def Builds (files : InputFiles) (task : CreateCFStackTask Parameter RollbackConfiguration Tag)
    (request : CreateStackRequest Parameter RollbackConfiguration Tag) : Prop :=
  ∃ templateBody stackPolicyBody, files.toString task.cfTemplate = .ok templateBody ∧
    CreateCFStackTask.readStackPolicy files task = .ok stackPolicyBody ∧
    request = CreateCFStackTask.createStackRequest task templateBody stackPolicyBody

/-! ## The request of a task -/

/-- The test of the collections loses nothing. -/
theorem givenAll_collection {α : Type}
    (wrap : List α → PropertyValue Parameter RollbackConfiguration Tag)
    (values : Option (List α)) :
    givenAll wrap (CreateCFStackTask.collection values) = givenAll wrap values := by
  rcases values with _ | _ | ⟨a, l⟩ <;> rfl

/-- The test of the strings loses nothing. -/
theorem givenText_string (value : Option String) :
    (givenText (CreateCFStackTask.string value) :
      Option (PropertyValue Parameter RollbackConfiguration Tag)) = givenText value := by
  cases value with
  | none => rfl
  | some value =>
    by_cases hempty : value = ""
    · rw [hempty]
      rfl
    · simp [CreateCFStackTask.string, Option.filter, givenText, hempty]

section Request

variable {files : InputFiles} {task : CreateCFStackTask Parameter RollbackConfiguration Tag}
  {request : CreateStackRequest Parameter RollbackConfiguration Tag}

/-- What has been read of the policy is what the policy says. -/
theorem toOption_of_readStackPolicy {stackPolicyBody : Option String}
    (hpolicy : CreateCFStackTask.readStackPolicy files task = .ok stackPolicyBody) :
    (files.toString task.stackPolicy).toOption = stackPolicyBody := by
  unfold CreateCFStackTask.readStackPolicy at hpolicy
  cases hfile : task.stackPolicy with
  | none =>
    rw [hfile] at hpolicy
    cases hpolicy
    rfl
  | some stackPolicy =>
    rw [hfile] at hpolicy
    dsimp only at hpolicy
    cases htext : files.toString (some stackPolicy) with
    | error e =>
      rw [htext] at hpolicy
      cases hpolicy
    | ok text =>
      rw [htext] at hpolicy
      cases hpolicy
      rfl

/-- A policy that can be read, if there is one, is read. -/
theorem readStackPolicy_of_readable
    (hpolicy : ∀ stackPolicy, task.stackPolicy = some stackPolicy →
      ∃ text, files.toString (some stackPolicy) = .ok text) :
    ∃ stackPolicyBody, CreateCFStackTask.readStackPolicy files task = .ok stackPolicyBody := by
  unfold CreateCFStackTask.readStackPolicy
  cases hfile : task.stackPolicy with
  | none => exact ⟨none, rfl⟩
  | some stackPolicy =>
    obtain ⟨text, htext⟩ := hpolicy stackPolicy hfile
    dsimp only
    rw [htext]
    exact ⟨some text, rfl⟩

/-- **A request is built** exactly if the files can be read. -/
theorem exists_builds_iff : (∃ request, Builds files task request) ↔ Readable files task := by
  constructor
  · intro h
    obtain ⟨_, templateBody, stackPolicyBody, htemplate, hpolicy, -⟩ := h
    refine ⟨⟨templateBody, htemplate⟩, ?_⟩
    intro stackPolicy hfile
    rw [CreateCFStackTask.readStackPolicy, hfile] at hpolicy
    cases htext : files.toString (some stackPolicy) with
    | ok text => exact ⟨text, rfl⟩
    | error e =>
      dsimp only at hpolicy
      rw [htext] at hpolicy
      cases hpolicy
  · intro h
    obtain ⟨⟨templateBody, htemplate⟩, hpolicy⟩ := h
    obtain ⟨stackPolicyBody, hread⟩ := readStackPolicy_of_readable hpolicy
    exact ⟨_, templateBody, stackPolicyBody, htemplate, hread, rfl⟩

/-- **The request agrees with its task** in all properties but two. -/
theorem carried_of_builds (hbuilds : Builds files task request) (p : StackProperty)
    (honFailure : p ≠ .onFailure) (htags : p ≠ .tags) :
    carried request p = configured files task p := by
  obtain ⟨templateBody, stackPolicyBody, htemplate, hpolicy, rfl⟩ := hbuilds
  have hpolicyText := toOption_of_readStackPolicy hpolicy
  cases p with
  | stackName | disableRollback | enableTerminationProtection | rollbackConfiguration
  | timeoutInMinutes => rfl
  | templateBody =>
    rw [configured, htemplate]
    rfl
  | stackPolicyBody =>
    rw [configured, hpolicyText]
    rfl
  | capabilities | notificationARNs | parameters | resourceTypes =>
    exact givenAll_collection ..
  | clientRequestToken | roleARN => exact givenText_string ..
  | onFailure => exact absurd rfl honFailure
  | tags => exact absurd rfl htags

/-- `OnFailure` is always carried: as it is configured, or as the default. -/
theorem carried_onFailure (hbuilds : Builds files task request) :
    carried request .onFailure =
      some ((configured files task .onFailure).getD (.text "ROLLBACK")) := by
  obtain ⟨templateBody, stackPolicyBody, -, -, rfl⟩ := hbuilds
  unfold carried configured CreateCFStackTask.createStackRequest
  rcases task.onFailure with _ | _ | _ | _ <;> rfl

/-- The tags are never carried. -/
theorem carried_tags (hbuilds : Builds files task request) : carried request .tags = none := by
  obtain ⟨templateBody, stackPolicyBody, -, -, rfl⟩ := hbuilds
  rfl

/-- Without tags, all that is configured is carried. -/
theorem carries_configured_of_builds (hbuilds : Builds files task request)
    (hnotags : configured files task .tags = none) (p : StackProperty)
    (value : PropertyValue Parameter RollbackConfiguration Tag)
    (hvalue : configured files task p = some value) : carried request p = some value := by
  by_cases hp : p = .onFailure
  · rw [hp] at hvalue ⊢
    rw [carried_onFailure hbuilds, hvalue]
    rfl
  · by_cases ht : p = .tags
    · rw [ht, hnotags] at hvalue
      cases hvalue
    · rw [carried_of_builds hbuilds p hp ht, hvalue]

/-- Nothing else is carried, but the default of `OnFailure`. -/
theorem nothing_else_of_builds (hbuilds : Builds files task request) (p : StackProperty)
    (value : PropertyValue Parameter RollbackConfiguration Tag)
    (hvalue : carried request p = some value) :
    (configured files task p).isSome ∨ p = .onFailure ∧ value = .text "ROLLBACK" := by
  by_cases hp : p = .onFailure
  · rw [hp, carried_onFailure hbuilds] at hvalue
    rw [hp]
    cases hset : configured files task .onFailure with
    | some _ => exact .inl rfl
    | none =>
      rw [hset] at hvalue
      exact .inr ⟨rfl, (Option.some.inj hvalue).symm⟩
  · by_cases ht : p = .tags
    · rw [ht, carried_tags hbuilds] at hvalue
      cases hvalue
    · rw [carried_of_builds hbuilds p hp ht] at hvalue
      rw [hvalue]
      exact .inl rfl

/-- **When a request says what was configured**: there are no tags, and `OnFailure` is
configured if `DisableRollback` is. -/
theorem saysWhatWasConfigured_iff (hbuilds : Builds files task request) :
    SaysWhatWasConfigured files task request ↔
      configured files task .tags = none ∧
        ((configured files task .disableRollback).isSome →
          (configured files task .onFailure).isSome) := by
  have hrollback := carried_of_builds hbuilds .disableRollback (by decide) (by decide)
  constructor
  · intro h
    constructor
    · cases hset : configured files task .tags with
      | none => rfl
      | some value =>
        have hcarried := h.carries_configured .tags value hset
        rw [carried_tags hbuilds] at hcarried
        cases hcarried
    · intro hset
      have honFailure : (carried request .onFailure).isSome := by
        rw [carried_onFailure hbuilds]
        rfl
      exact (h.not_both (hrollback ▸ hset) honFailure).2
  · intro h
    obtain ⟨hnotags, hboth⟩ := h
    refine ⟨carries_configured_of_builds hbuilds hnotags, nothing_else_of_builds hbuilds, ?_⟩
    intro hset _
    rw [hrollback] at hset
    exact ⟨hset, hboth hset⟩

end Request

/-! ## What a run submits -/

section Runs

variable {σ : Type}

/-- The requests that have been submitted. -/
def submitted (w : CloudFormationWorld σ Parameter RollbackConfiguration Tag) :
    List (CreateStackRequest Parameter RollbackConfiguration Tag) := w.trace.map (·.call)

variable {amazonCF : AmazonCloudFormation σ Parameter RollbackConfiguration Tag}
  {files : InputFiles} {task : CreateCFStackTask Parameter RollbackConfiguration Tag}
  {request : CreateStackRequest Parameter RollbackConfiguration Tag}
  {w : CloudFormationWorld σ Parameter RollbackConfiguration Tag}

/-- Nothing else has been submitted. -/
def NothingBut (request : CreateStackRequest Parameter RollbackConfiguration Tag)
    (w : CloudFormationWorld σ Parameter RollbackConfiguration Tag) : Prop :=
  ∀ r ∈ submitted w, r = request

/-- The request has been submitted, once or more often, and nothing else. -/
def HasSubmitted (request : CreateStackRequest Parameter RollbackConfiguration Tag)
    (w : CloudFormationWorld σ Parameter RollbackConfiguration Tag) : Prop :=
  submitted w ≠ [] ∧ NothingBut request w

/-- Submitting the request once more, if nothing else has been submitted. -/
theorem hasSubmitted_record (h : NothingBut request w) (fault : Option (Fault Throwable))
    (s : σ) : HasSubmitted request (w.record request fault s) := by
  have hlast : submitted (w.record request fault s) = submitted w ++ [request] :=
    List.map_append ..
  constructor
  · rw [hlast]
    exact List.append_ne_nil_of_right_ne_nil _ (List.cons_ne_nil _ _)
  · intro r hr
    rw [hlast] at hr
    rcases List.mem_append.mp hr with hr | hr
    · exact h r hr
    · exact List.mem_singleton.mp hr

/-- **One attempt** submits the request, whatever the service does with it. -/
theorem wp_attempt_submits (hbuilds : Builds files task request) (h : NothingBut request w) :
    (CreateCFStackTask.attempt amazonCF files task).wp (fun _ w' => HasSubmitted request w')
      (fun _ w' => HasSubmitted request w') w := by
  obtain ⟨templateBody, stackPolicyBody, htemplate, hpolicy, hrequest⟩ := hbuilds
  unfold CreateCFStackTask.attempt
  rw [Prog.wp_bind, wp_log, htemplate, Prog.wp_bind, Prog.wp_ofExcept_ok, hpolicy, Prog.wp_bind,
    Prog.wp_ofExcept_ok, Prog.wp_bind, ← hrequest]
  apply wp_call
  · intro f _
    exact hasSubmitted_record h (some f) _
  · intro _ s _ _
    exact hasSubmitted_record h none s
  · intro _ s _ _
    exact hasSubmitted_record h none s

/-- **A run** submits the request. -/
theorem wp_run_submits (amazonCF : AmazonCloudFormation σ Parameter RollbackConfiguration Tag)
    (hbuilds : Builds files task request) (h : NothingBut request w) :
    (CreateCFStackTask.run amazonCF files task).wp (fun _ w' => HasSubmitted request w')
      (fun _ w' => HasSubmitted request w') w := by
  -- from the second attempt on, the request has been submitted before
  let I : ℕ → CloudFormationWorld σ Parameter RollbackConfiguration Tag → Prop :=
    fun k w' => NothingBut request w' ∧ (k ≠ 0 → submitted w' ≠ [])
  refine wp_execute I _ ?_ ?_ ?_ w ⟨h, fun hzero => absurd rfl hzero⟩
  · intro _ _ _ hw'
    exact hw'
  · intro k w₁ _ hw₁
    refine Prog.wp_mono (wp_attempt_submits hbuilds hw₁.1) (fun _ _ hq => hq) ?_
    intro t w₂ hw₂
    unfold AfterError
    split
    · exact hw₂
    · exact ⟨hw₂.2, fun _ => hw₂.1⟩
  · intro w' hw'
    exact ⟨hw'.2 (by decide), hw'.1⟩

/-- **A run that cannot read its files** submits nothing. -/
theorem wp_run_submits_nothing
    (amazonCF : AmazonCloudFormation σ Parameter RollbackConfiguration Tag)
    (hunreadable : ¬ Readable files task) (h : submitted w = []) :
    (CreateCFStackTask.run amazonCF files task).wp (fun _ w' => submitted w' = [])
      (fun _ w' => submitted w' = []) w := by
  apply wp_execute_keeps (fun w' => submitted w' = []) _ (fun _ _ h => h) _ w h
  intro w₁ hw₁
  unfold CreateCFStackTask.attempt
  rw [Prog.wp_bind, wp_log, Prog.wp_bind]
  cases htemplate : files.toString task.cfTemplate with
  | error e => exact hw₁
  | ok templateBody =>
    rw [Prog.wp_ofExcept_ok, Prog.wp_bind]
    cases hpolicy : CreateCFStackTask.readStackPolicy files task with
    | error e => exact hw₁
    | ok stackPolicyBody =>
      have hbuilds : ∃ request, Builds files task request :=
        ⟨_, templateBody, stackPolicyBody, htemplate, hpolicy, rfl⟩
      exact absurd (exists_builds_iff.mp hbuilds) hunreadable

end Runs

/-- **A request says what was configured** exactly when the template or the policy cannot be
read, so that there is none, or no tags are configured and `OnFailure` is if
`DisableRollback` is.
SRC: aws/cloudformation/CreateCFStackTask.java:107-178 -/
theorem stack_request_says_configured_iff {σ : Type}
    (amazonCF : AmazonCloudFormation σ Parameter RollbackConfiguration Tag) (files : InputFiles)
    (task : CreateCFStackTask Parameter RollbackConfiguration Tag) (s : σ) :
    (∀ request ∈ submitted (CreateCFStackTask.run amazonCF files task (World.start s)).2,
      SaysWhatWasConfigured files task request) ↔
      ¬ Readable files task ∨
        ((task.tags = none ∨ task.tags = some []) ∧
          (task.disableRollback = none ∨ task.onFailure ≠ none)) := by
  have htags : configured files task .tags = none ↔ task.tags = none ∨ task.tags = some [] := by
    unfold configured
    rcases task.tags with _ | _ | ⟨tag, tags⟩ <;> simp [givenAll]
  have hrollback : ((configured files task .disableRollback).isSome →
      (configured files task .onFailure).isSome) ↔
      task.disableRollback = none ∨ task.onFailure ≠ none := by
    unfold configured
    cases task.disableRollback <;> cases task.onFailure <;> simp
  by_cases hreadable : Readable files task
  · obtain ⟨request, hbuilds⟩ := exists_builds_iff.mpr hreadable
    obtain ⟨-, hne, honly⟩ := Prog.wp_ended (wp_run_submits amazonCF hbuilds
      (w := World.start s) (fun _ hr => absurd hr List.not_mem_nil))
    have hrequest := saysWhatWasConfigured_iff hbuilds
    rw [htags, hrollback] at hrequest
    constructor
    · intro h
      obtain ⟨r, hr⟩ := List.exists_mem_of_ne_nil _ hne
      rw [honly r hr] at hr
      exact .inr (hrequest.mp (h request hr))
    · intro h r hr
      rw [honly r hr]
      exact hrequest.mpr (h.resolve_left fun hnot => hnot hreadable)
  · obtain ⟨-, hnone⟩ := Prog.wp_ended (wp_run_submits_nothing amazonCF hreadable
      (w := World.start s) rfl)
    rw [hnone]
    exact ⟨fun _ => .inl hreadable, fun _ _ hr => absurd hr List.not_mem_nil⟩

end Properties

/-- A service that creates every stack. -/
def sampleCloudFormation : AmazonCloudFormation Unit Unit Unit Unit :=
  ⟨⟨fun _ _ => (.ok (), ())⟩, .clear⟩

/-- Every file holds an empty template. -/
def templateFiles : InputFiles := ⟨fun _ => .ok "{}".toByteArray, .utf8⟩

/-- Tags are not submitted, and `DisableRollback` is submitted together with the default of
`OnFailure`. -/
theorem stack_request_differs :
    (¬ ∀ request ∈ submitted (CreateCFStackTask.run sampleCloudFormation templateFiles
        { stackName := some "app", cfTemplate := some "app.json", tags := some [()] }
        (World.start ())).2,
      SaysWhatWasConfigured templateFiles
        { stackName := some "app", cfTemplate := some "app.json", tags := some [()] }
        request) ∧
    ¬ ∀ request ∈ submitted (CreateCFStackTask.run sampleCloudFormation templateFiles
        { stackName := some "app", cfTemplate := some "app.json", disableRollback := some true }
        (World.start ())).2,
      SaysWhatWasConfigured templateFiles
        { stackName := some "app", cfTemplate := some "app.json", disableRollback := some true }
        request := by
  refine ⟨?_, ?_⟩
  · intro h
    have hrequest := h _ (List.mem_of_mem_head? rfl)
    cases hrequest.carries_configured .tags _ rfl
  · intro h
    have hrequest := h _ (List.mem_of_mem_head? rfl)
    exact absurd (hrequest.not_both rfl rfl).2 (by decide)

end GradleLocalstack.Analysis
