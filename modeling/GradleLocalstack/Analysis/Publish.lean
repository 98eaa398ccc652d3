import GradleLocalstack.Analysis.MessageFiles
import GradleLocalstack.Analysis.MessagingService
import GradleLocalstack.Analysis.RetryRule
import GradleLocalstack.Foundation.Dealing

/-!
# Publishing messages

`PublishSqsTask.run` catches, for each message file, what its processing throws, and
prints it.  A failed `sendMessage` so costs the rest of its file: the run goes on with
the next file, and returns.

`FilePublished` is what becomes of one file: all of its lines have gone to all queues, or they
have gone so far as to the `sendMessage` that failed, which is on the console.  A run that
returns has published its files one after the other in its last attempt, and there was an
attempt before that sent anything only if what was thrown then was no `Exception`.
-/

set_option autoImplicit false

namespace GradleLocalstack.Analysis

open Foundation GradleLocalstack.Model GradleLocalstack.Program

/-! ## What is to be published, and what a run has sent -/

/-- What is to be published: the lines of all files that are not empty, in order. -/
def publishedLines (messages : List MessageFile) : List String :=
  messages.flatMap fun file => nonEmpty (fileLines file)

/-- The calls of `sendMessage`. -/
def isSend : MessagingCall → Bool
  | .sendMessage _ _ => true
  | _ => false

/-- A `sendMessage` of the run has failed. -/
def SendFailed (w : MessagingWorld) : Prop :=
  ∃ r ∈ w.trace, isSend r.call = true ∧ r.fault.isSome

/-- What the failed `sendMessage` calls of the run have thrown are `java.lang.Exception`s. -/
def FailsWithExceptions (w : MessagingWorld) : Prop :=
  ∀ r ∈ w.trace, isSend r.call = true → ∀ f ∈ r.fault, f.error.isException = true

/-- No `sendMessage` has been called. -/
def NothingSent (w : MessagingWorld) : Prop := ∀ r ∈ w.trace, isSend r.call = false

/-- The console shows the message of the exception. -/
def Reported (w : MessagingWorld) (t : Throwable) : Prop :=
  .line (PublishSqsTask.publishError t) ∈ w.console ∨ .line (Retry.errorText t) ∈ w.console

/-- Every failed `sendMessage` of the run has been reported, or threw the exception that
is being thrown just now. -/
def AllReported (now : Option Throwable) (w : MessagingWorld) : Prop :=
  ∀ r ∈ w.trace, isSend r.call = true → ∀ f ∈ r.fault, Reported w f.error ∨ now = some f.error

/-- The messages of a queue, none if it does not exist. -/
def messagesOf (s : MessagingStore) (name : String) : List String :=
  (s.queues name).elim [] Queue.messages

/-- What a queue has received in a world. -/
def receivedBy (c : String) (w : MessagingWorld) : List String := messagesOf w.store c

/-- Every listed queue exists. -/
def QueuesPresent (queueNames : List String) (w : MessagingWorld) : Prop :=
  ∀ c ∈ queueNames, (w.store.queues c).isSome

/-- From `w` to `w'` the lines were sent as far as to one `sendMessage`, which failed with `e`:
all queues have the lines before that one, and the queues before the one it was for have that
one too. -/
def CutShort (sqs : MessagingClient) (queueNames lines : List String) (e : Throwable)
    (w w' : MessagingWorld) : Prop :=
  ∃ (i k : ℕ) (hi : i < queueNames.length) (hk : k < lines.length),
    w.StruckAt w' (.sendMessage (sqs.addresses.queueUrls.address queueNames[i]) lines[k]) e ∧
    ∀ j (hj : j < queueNames.length), messagesOf w'.store queueNames[j] =
      messagesOf w.store queueNames[j] ++ lines.take (if j < i then k + 1 else k)

/-- What has become of a message file, from `w` to `w'`. -/
inductive FilePublished (sqs : MessagingClient) (queueNames : List String) (file : MessageFile)
    (w w' : MessagingWorld) : Prop
  /-- No call failed, and all queues have received all lines, in order. -/
  | whole (hclear : w'.struck = w.struck)
      (hall : ∀ c ∈ queueNames, messagesOf w'.store c =
        messagesOf w.store c ++ nonEmpty (fileLines file))
  /-- A `sendMessage` failed, which has been reported, and the rest of the file was left. -/
  | cut (e : Throwable) (hcut : CutShort sqs queueNames (nonEmpty (fileLines file)) e w w')
      (hreported : .line (PublishSqsTask.publishError e) ∈ w'.console)

/-- The files have been published one after the other, from `w` to `w'`. -/
inductive FilesPublished (sqs : MessagingClient) (queueNames : List String) :
    List MessageFile → MessagingWorld → MessagingWorld → Prop
  | nil (w : MessagingWorld) : FilesPublished sqs queueNames [] w w
  | cons {file : MessageFile} {messages : List MessageFile} {w w₁ w' : MessagingWorld}
      (hfile : FilePublished sqs queueNames file w w₁)
      (hrest : FilesPublished sqs queueNames messages w₁ w') :
      FilesPublished sqs queueNames (file :: messages) w w'

/-! ## What is never taken back -/

/-- From `w` to `w'` nothing was taken off the console, out of the record of the failures, or
out of the listed queues. -/
structure Onward (queueNames : List String) (w w' : MessagingWorld) : Prop where
  console : w.console <+: w'.console
  struck : w.struck <+: w'.struck
  messages : ∀ c ∈ queueNames, messagesOf w.store c <+: messagesOf w'.store c

section World

variable {sqs : MessagingClient} {queueNames : List String} {lines : List String}
  {file : MessageFile} {messages : List MessageFile} {w w₁ w' : MessagingWorld} {c : MessagingCall}
  {t e : Throwable}

/-- Nothing has happened. -/
theorem Onward.refl (w : MessagingWorld) : Onward queueNames w w :=
  ⟨List.prefix_rfl, List.prefix_rfl, fun _ _ => List.prefix_rfl⟩

/-- One stretch after the other. -/
theorem Onward.trans (h : Onward queueNames w w₁) (h' : Onward queueNames w₁ w') :
    Onward queueNames w w' :=
  ⟨h.console.trans h'.console, h.struck.trans h'.struck,
    fun c hc => (h.messages c hc).trans (h'.messages c hc)⟩

/-- Printing. -/
theorem Onward.emit (o : Output) : Onward queueNames w (Console.emit o w) :=
  ⟨List.prefix_append _ _, List.prefix_rfl, fun _ _ => List.prefix_rfl⟩

/-- The failed calls of a run are those that were struck. -/
theorem sendFailed_iff : SendFailed w ↔ ∃ r ∈ w.struck, isSend r.call = true := by
  unfold SendFailed World.struck
  simp only [List.mem_filter]
  constructor
  · rintro ⟨r, hr, hsend, hfault⟩
    exact ⟨r, ⟨hr, hfault⟩, hsend⟩
  · rintro ⟨r, ⟨hr, hfault⟩, hsend⟩
    exact ⟨r, hr, hsend, hfault⟩

/-- A failure is a failed call of the trace. -/
theorem mem_struck_of_fault {r : CallRecord MessagingStore MessagingCall Throwable}
    {f : Fault Throwable} (hr : r ∈ w.trace) (hf : f ∈ r.fault) : r ∈ w.struck := by
  apply List.mem_filter.mpr
  rw [hf]
  exact ⟨hr, rfl⟩

/-- What was reported stays on the console. -/
theorem Reported.grow (h : Reported w t) (hconsole : w.console <+: w'.console) :
    Reported w' t :=
  h.imp (fun hline => hconsole.subset hline) (fun hline => hconsole.subset hline)

/-- No call has failed since. -/
theorem AllReported.grow (h : AllReported none w) (hconsole : w.console <+: w'.console)
    (hclear : w'.struck = w.struck) : AllReported none w' := by
  intro r hr hsend f hf
  have hstruck := mem_struck_of_fault hr hf
  rw [hclear] at hstruck
  have hold := h r (List.mem_filter.mp hstruck).1 hsend f hf
  exact hold.imp_left fun hreported => hreported.grow hconsole

/-- One call has failed since, and its exception is being thrown. -/
theorem AllReported.strike (h : AllReported none w) (hconsole : w.console <+: w'.console)
    (hat : w.StruckAt w' c t) : AllReported (some t) w' := by
  obtain ⟨f, rfl, hstruck⟩ := hat
  intro r hr hsend f' hf
  have hmem := mem_struck_of_fault hr hf
  rw [hstruck] at hmem
  cases List.mem_append.mp hmem with
  | inl hold =>
    left
    cases h r (List.mem_filter.mp hold).1 hsend f' hf with
    | inl hreported => exact hreported.grow hconsole
    | inr hnow => cases hnow
  | inr hnew =>
    right
    rw [List.mem_singleton.mp hnew] at hf
    rw [Option.mem_some_iff.mp hf]

/-- The exception that is being thrown has been printed. -/
theorem AllReported.report (h : AllReported (some t) w) (hreported : Reported w t) :
    AllReported none w := by
  intro r hr hsend f hf
  left
  cases h r hr hsend f hf with
  | inl hold => exact hold
  | inr hnow =>
    rw [← Option.some.inj hnow]
    exact hreported

/-- A failure that was no `Exception` stays in the record. -/
theorem FailsWithExceptions.of_onward (h : FailsWithExceptions w')
    (honward : Onward queueNames w w') : FailsWithExceptions w := by
  intro r hr hsend f hf
  have hstruck := honward.struck.subset (mem_struck_of_fault hr hf)
  exact h r (List.mem_filter.mp hstruck).1 hsend f hf

/-- A failed `sendMessage` threw what it threw. -/
theorem FailsWithExceptions.of_struckAt {queueUrl messageBody : String}
    (h : FailsWithExceptions w') (hat : w.StruckAt w' (.sendMessage queueUrl messageBody) t) :
    t.isException = true := by
  obtain ⟨f, rfl, hmem⟩ := hat.mem
  exact h _ (List.mem_filter.mp hmem).1 rfl f rfl

/-! ## What a published file leaves -/

/-- Some queue has not received all lines, and none more than them. -/
theorem CutShort.length_lt (h : CutShort sqs queueNames lines e w w') :
    (∀ c ∈ queueNames, (messagesOf w'.store c).length ≤
      (messagesOf w.store c).length + lines.length) ∧
    ∃ c ∈ queueNames, (messagesOf w'.store c).length <
      (messagesOf w.store c).length + lines.length := by
  obtain ⟨i, k, hi, hk, -, hreceived⟩ := h
  constructor
  · intro c hc
    obtain ⟨j, hj, rfl⟩ := List.getElem_of_mem hc
    rw [hreceived j hj, List.length_append, List.length_take]
    omega
  · refine ⟨queueNames[i], List.getElem_mem hi, ?_⟩
    rw [hreceived i hi, if_neg (lt_irrefl i), List.length_append, List.length_take]
    omega

/-- A file that was cut short takes nothing back. -/
theorem CutShort.messages_prefix (h : CutShort sqs queueNames lines e w w') :
    ∀ c ∈ queueNames, messagesOf w.store c <+: messagesOf w'.store c := by
  obtain ⟨i, k, -, -, -, hreceived⟩ := h
  intro c hc
  obtain ⟨j, hj, rfl⟩ := List.getElem_of_mem hc
  rw [hreceived j hj]
  exact List.prefix_append _ _

/-- A file keeps every failure reported. -/
theorem FilePublished.allReported (h : FilePublished sqs queueNames file w w')
    (hconsole : w.console <+: w'.console) (hw : AllReported none w) : AllReported none w' := by
  cases h with
  | whole hclear _ => exact hw.grow hconsole hclear
  | cut e hcut hreported =>
    obtain ⟨i, k, hi, hk, hat, -⟩ := hcut
    exact (hw.strike hconsole hat).report (.inl hreported)

/-- What has come to the queues is less than all lines if a `sendMessage` has failed since, and
all lines otherwise. -/
theorem FilesPublished.received (h : FilesPublished sqs queueNames messages w w') :
    (w'.struck = w.struck ∧ ∀ c ∈ queueNames,
      messagesOf w'.store c = messagesOf w.store c ++ publishedLines messages) ∨
    ((∃ r ∈ w'.struck, isSend r.call = true) ∧
      (∀ c ∈ queueNames, (messagesOf w'.store c).length ≤
        (messagesOf w.store c).length + (publishedLines messages).length) ∧
      ∃ c ∈ queueNames, (messagesOf w'.store c).length <
        (messagesOf w.store c).length + (publishedLines messages).length) := by
  induction h with
  | nil w =>
    left
    exact ⟨rfl, fun c _ => (List.append_nil _).symm⟩
  | @cons file messages w w₁ w' hfile hrest ih =>
    have hlines : publishedLines (file :: messages) =
        nonEmpty (fileLines file) ++ publishedLines messages := List.flatMap_cons
    have hrestLe : ∀ c ∈ queueNames, (messagesOf w'.store c).length ≤
        (messagesOf w₁.store c).length + (publishedLines messages).length := by
      rcases ih with ⟨-, hall⟩ | ⟨-, hle, -⟩
      · intro c hc
        rw [hall c hc, List.length_append]
      · exact hle
    rw [hlines]
    simp only [List.length_append]
    cases hfile with
    | whole hclear hall =>
      rcases ih with ⟨hclear', hall'⟩ | ⟨hfailed, -, c, hc, hlt⟩
      · left
        refine ⟨hclear'.trans hclear, ?_⟩
        intro c hc
        rw [hall' c hc, hall c hc, List.append_assoc]
      · right
        have hfirst : ∀ c ∈ queueNames, (messagesOf w₁.store c).length =
            (messagesOf w.store c).length + (nonEmpty (fileLines file)).length := by
          intro c hc
          rw [hall c hc, List.length_append]
        refine ⟨hfailed, ?_, c, hc, ?_⟩
        · intro c hc
          have h₁ := hfirst c hc
          have h₂ := hrestLe c hc
          omega
        · have h₁ := hfirst c hc
          omega
    | cut e hcut _ =>
      right
      obtain ⟨hle, c, hc, hlt⟩ := hcut.length_lt
      refine ⟨?_, ?_, c, hc, ?_⟩
      · obtain ⟨i, k, hi, hk, hat, -⟩ := hcut
        obtain ⟨f, -, hmem⟩ := hat.mem
        rcases ih with ⟨hclear', -⟩ | ⟨hfailed, -⟩
        · exact ⟨_, hclear' ▸ hmem, rfl⟩
        · exact hfailed
      · intro c hc
        have h₁ := hle c hc
        have h₂ := hrestLe c hc
        omega
      · have h₂ := hrestLe c hc
        omega

end World

/-! ## One message -/

section Steps

variable {sqs : MessagingClient} {queueNames : List String} {s : MessagingStore}
  {w : MessagingWorld}

/-- The messages of the queues after one queue has changed. -/
theorem messagesOf_update (s : MessagingStore) (topics : String → Option Topic) (c d : String)
    (q : Queue) :
    messagesOf ⟨Function.update s.queues c (some q), topics⟩ d =
      if d = c then q.messages else messagesOf s d := by
  show (Function.update s.queues c (some q) d).elim [] Queue.messages = _
  by_cases h : d = c
  · rw [if_pos h, h, Function.update_self]
    rfl
  · rw [if_neg h, Function.update_of_ne h]
    rfl

/-- What holds while the lines of a file are sent that was begun in `w`. -/
structure Sending (queueNames : List String) (w w' : MessagingWorld) : Prop where
  present : QueuesPresent queueNames w'
  clear : w'.struck = w.struck
  console : w.console <+: w'.console

/-- What a failed `sendMessage` leaves, of a file that was begun in `w`. -/
structure SendLost (sqs : MessagingClient) (queueNames : List String) (w : MessagingWorld)
    (c messageBody : String) (t : Throwable) (w' : MessagingWorld) : Prop where
  present : QueuesPresent queueNames w'
  at_call : w.StruckAt w' (.sendMessage (sqs.addresses.queueUrls.address c) messageBody) t
  injects : sqs.sched.Injects t
  console : w.console <+: w'.console

/-- **One message**: `sendMessage` delivers it, or fails and delivers nothing. -/
theorem gives_sendMessage (hno : sqs.sched.NoEffect) {c : String} (hc : c ∈ queueNames) :
    Gives (fun c messageBody => sqs.sendMessage (sqs.addresses.queueUrls.address c) messageBody)
      receivedBy (Sending queueNames w) (SendLost sqs queueNames w) c := by
  intro messageBody w₁ hsending
  obtain ⟨q, hq⟩ := Option.isSome_iff_exists.mp (hsending.present c hc)
  have hx : (Messaging.service sqs.addresses).exec
      (.sendMessage (sqs.addresses.queueUrls.address c) messageBody) w₁.store =
      (.ok (), ⟨Function.update w₁.store.queues c
        (some { q with messages := q.messages ++ [messageBody] }), w₁.store.topics⟩) :=
    sendMessage_of_some hq
  refine Prog.wp_mono (wp_call_noEffect hno hx) ?_ ?_
  · intro _ w' hw'
    obtain ⟨-, rfl⟩ := hw'
    refine ⟨⟨?_, ?_, hsending.console⟩, ?_⟩
    · intro d hd
      exact isSome_update _ (hsending.present d hd)
    · rw [World.struck_record_none]
      exact hsending.clear
    · intro d
      show messagesOf ⟨Function.update w₁.store.queues c _, w₁.store.topics⟩ d =
        messagesOf w₁.store d ++ _
      rw [messagesOf_update]
      by_cases heq : d = c
      · have hmessages : messagesOf w₁.store c = q.messages := by simp [messagesOf, hq]
        rw [if_pos heq, if_pos heq, heq, hmessages]
      · rw [if_neg heq, if_neg heq, List.append_nil]
  · intro t w' hw'
    obtain ⟨f, hf, hinjects, rfl⟩ := hw'
    refine ⟨⟨hsending.present, ⟨f, hf, ?_⟩, hinjects, hsending.console⟩, fun _ => rfl⟩
    rw [World.struck_record_some, hsending.clear]
    rfl

/-- **The lines of a file** to all queues. -/
theorem wp_sendLines (hno : sqs.sched.NoEffect) (hnodup : queueNames.Nodup)
    (lines : List String) (hpresent : QueuesPresent queueNames w) :
    (Prog.forEach (sendToAll sqs (queueNames.map sqs.addresses.queueUrls.address)) lines).wp
      (fun _ w' => Sending queueNames w w' ∧ ∀ c ∈ queueNames,
        messagesOf w'.store c = messagesOf w.store c ++ lines)
      (fun t w' => QueuesPresent queueNames w' ∧ w.console <+: w'.console ∧
        sqs.sched.Injects t ∧ CutShort sqs queueNames lines t w w') w := by
  have hsend : sendToAll sqs (queueNames.map sqs.addresses.queueUrls.address) =
      fun messageBody => Prog.forEach (fun c =>
        sqs.sendMessage (sqs.addresses.queueUrls.address c) messageBody) queueNames := by
    funext messageBody
    exact Prog.forEach_map ..
  have hstart : Sending queueNames w w := ⟨hpresent, rfl, List.prefix_rfl⟩
  rw [hsend]
  refine Prog.wp_mono
    (wp_deal hnodup (fun c hc => gives_sendMessage hno hc) lines hstart) ?_ ?_
  · intro _ w' hw'
    obtain ⟨hsending, hdealt⟩ := hw'
    refine ⟨hsending, ?_⟩
    intro c hc
    obtain ⟨j, hj, rfl⟩ := List.getElem_of_mem hc
    have hall := hdealt j hj
    rw [Shares.of_all] at hall
    exact hall
  · intro t w' hw'
    obtain ⟨i, k, hi, hk, hlost, hdealt⟩ := hw'
    exact ⟨hlost.present, hlost.console, hlost.injects, i, k, hi, hk, hlost.at_call, hdealt⟩

/-- **A file and its handler**: what is thrown on is not an `Exception`. -/
theorem wp_publishFile (hno : sqs.sched.NoEffect) (hnodup : queueNames.Nodup)
    (file : MessageFile) (hpresent : QueuesPresent queueNames w) :
    (PublishSqsTask.publishFile sqs (queueNames.map sqs.addresses.queueUrls.address) file).wp
      (fun _ w' => QueuesPresent queueNames w' ∧ Onward queueNames w w' ∧
        FilePublished sqs queueNames file w w')
      (fun t w' => QueuesPresent queueNames w' ∧ Onward queueNames w w' ∧
        t.isException = false ∧ sqs.sched.Injects t ∧
        CutShort sqs queueNames (nonEmpty (fileLines file)) t w w') w := by
  have honward : ∀ {t : Throwable} {w' : MessagingWorld}, w.console <+: w'.console →
      CutShort sqs queueNames (nonEmpty (fileLines file)) t w w' → Onward queueNames w w' := by
    intro t w' hconsole hcut
    have hprefix := hcut.messages_prefix
    obtain ⟨i, k, hi, hk, hat, -⟩ := hcut
    exact ⟨hconsole, hat.struck_mono, hprefix⟩
  unfold PublishSqsTask.publishFile
  rw [processMessages_eq, Prog.wp_tryCatch, Prog.wp_bind, wp_log, Prog.wp_bind]
  have hlog : QueuesPresent queueNames (Console.emit (.line (processingText file)) w) := hpresent
  refine Prog.wp_mono (wp_sendLines hno hnodup (nonEmpty (fileLines file)) hlog) ?_ ?_
  · intro _ w' hw'
    obtain ⟨⟨hpresent', hclear, hconsole⟩, hall⟩ := hw'
    have hconsole' : w.console <+: w'.console := (List.prefix_append _ _).trans hconsole
    have hall' : ∀ c ∈ queueNames, messagesOf w'.store c =
        messagesOf w.store c ++ nonEmpty (fileLines file) := hall
    have honward' : Onward queueNames w w' := by
      refine ⟨hconsole', (hclear ▸ List.prefix_rfl : w.struck <+: w'.struck), ?_⟩
      intro c hc
      rw [hall' c hc]
      exact List.prefix_append _ _
    cases fileFailure file with
    | none => exact ⟨hpresent', honward', .whole hclear hall'⟩
    | some e =>
      -- the file could not be read to its end
      show Prog.wp (if e.val.isException then log (PublishSqsTask.publishError e.val)
        else throw e.val) _ _ w'
      rw [if_pos e.property]
      exact ⟨hpresent', honward'.trans (.emit _), .whole hclear hall'⟩
  · intro t w' ht
    obtain ⟨hpresent', hconsole, hinjects, hcut⟩ := ht
    have hconsole' : w.console <+: w'.console := (List.prefix_append _ _).trans hconsole
    have hcut' : CutShort sqs queueNames (nonEmpty (fileLines file)) t w w' := hcut
    cases hexc : t.isException with
    | true =>
      rw [if_pos rfl, wp_log]
      refine ⟨hpresent', (honward hconsole' hcut').trans (.emit _), .cut t hcut' ?_⟩
      exact List.mem_append_right _ (List.mem_singleton_self _)
    | false =>
      rw [if_neg Bool.false_ne_true, Prog.wp_throw]
      exact ⟨hpresent', honward hconsole' hcut', hexc, hinjects, hcut'⟩

/-- **All files.**  What is thrown on is not an `Exception`, and came from the `sendMessage` that
cut a file short. -/
theorem wp_publishFiles (hno : sqs.sched.NoEffect) (hnodup : queueNames.Nodup)
    (messages : List MessageFile) (hpresent : QueuesPresent queueNames w)
    (hreported : AllReported none w) :
    (Prog.forEach (PublishSqsTask.publishFile sqs
      (queueNames.map sqs.addresses.queueUrls.address)) messages).wp
      (fun _ w' => QueuesPresent queueNames w' ∧ AllReported none w' ∧
        Onward queueNames w w' ∧ FilesPublished sqs queueNames messages w w')
      (fun t w' => QueuesPresent queueNames w' ∧ AllReported (some t) w' ∧
        Onward queueNames w w' ∧ ¬ FailsWithExceptions w') w := by
  induction messages generalizing w with
  | nil => exact ⟨hpresent, hreported, .refl w, .nil w⟩
  | cons file messages ih =>
    rw [Prog.forEach, Prog.wp_bind]
    refine Prog.wp_mono (wp_publishFile hno hnodup file hpresent) ?_ ?_
    · intro _ w₁ hw₁
      obtain ⟨hpresent₁, honward₁, hfile⟩ := hw₁
      refine Prog.wp_mono (ih hpresent₁ (hfile.allReported honward₁.console hreported)) ?_ ?_
      · intro _ w' hw'
        obtain ⟨hpresent', hreported', honward', hfiles⟩ := hw'
        exact ⟨hpresent', hreported', honward₁.trans honward', .cons hfile hfiles⟩
      · intro t w' hw'
        obtain ⟨hpresent', hreported', honward', hexc⟩ := hw'
        exact ⟨hpresent', hreported', honward₁.trans honward', hexc⟩
    · intro t w' hw'
      obtain ⟨hpresent', honward', hexc, -, i, k, hi, hk, hat, -⟩ := hw'
      refine ⟨hpresent', hreported.strike honward'.console hat, honward', ?_⟩
      intro hexceptions
      rw [hexceptions.of_struckAt hat] at hexc
      cases hexc

/-- What holds where an attempt starts, of a run that started on `s`: an attempt before has sent
something only if what it ended with was no `Exception`. -/
structure Attempting (queueNames : List String) (s : MessagingStore) (w : MessagingWorld) :
    Prop where
  present : QueuesPresent queueNames w
  onward : Onward queueNames (World.start s) w
  reported : AllReported none w
  untouched : FailsWithExceptions w → NothingSent w ∧ w.store = s

/-- Resolving a queue name sends nothing. -/
theorem Attempting.record (h : Attempting queueNames s w) (name : String)
    (fault : Option (Fault Throwable)) :
    Attempting queueNames s (w.record (.getQueueUrl name) fault w.store) := by
  have hcalls : ∀ r ∈ (w.record (.getQueueUrl name) fault w.store).trace,
      isSend r.call = true → r ∈ w.trace := by
    intro r hr hsend
    cases List.mem_append.mp hr with
    | inl hold => exact hold
    | inr hnew =>
      rw [List.mem_singleton.mp hnew] at hsend
      cases hsend
  refine ⟨h.present, h.onward.trans ⟨List.prefix_rfl, ?_, fun _ _ => List.prefix_rfl⟩, ?_, ?_⟩
  · cases fault with
    | none => rw [World.struck_record_none]
    | some f =>
      rw [World.struck_record_some]
      exact List.prefix_append _ _
  · intro r hr hsend f hf
    exact h.reported r (hcalls r hr hsend) hsend f hf
  · intro hexceptions
    obtain ⟨hnothing, hstore⟩ := h.untouched fun r hr hsend f hf =>
      hexceptions r (List.mem_append_left _ hr) hsend f hf
    refine ⟨?_, hstore⟩
    intro r hr
    rw [Bool.eq_false_iff]
    intro hsend
    rw [hnothing r (hcalls r hr hsend)] at hsend
    cases hsend

/-- Printing. -/
theorem Attempting.emit (h : Attempting queueNames s w) (o : Output) :
    Attempting queueNames s (Console.emit o w) :=
  ⟨h.present, h.onward.trans (.emit o), h.reported.grow (List.prefix_append _ _) rfl, h.untouched⟩

/-- **The run.**  When it returns, its last attempt has published the files. -/
theorem wp_publish_run (hno : sqs.sched.NoEffect) (hne : queueNames ≠ [])
    (hnodup : queueNames.Nodup) (messages : List MessageFile)
    (hexist : ∀ c ∈ queueNames, (s.queues c).isSome) :
    (PublishSqsTask.run sqs ⟨some queueNames, some messages⟩).wp
      (fun _ w' => QueuesPresent queueNames w' ∧ AllReported none w' ∧
        ∃ w, FilesPublished sqs queueNames messages w w' ∧ Onward queueNames w w' ∧
          Attempting queueNames s w)
      (fun _ _ => True) (World.start s) := by
  have hstart : Attempting queueNames s (World.start s) :=
    ⟨hexist, .refl _, fun r hr => (List.not_mem_nil hr).elim,
      fun _ => ⟨fun r hr => (List.not_mem_nil hr).elim, rfl⟩⟩
  refine wp_execute (fun _ => Attempting queueNames s) _ (fun _ o _ h => h.emit o) ?_
    (fun _ _ => trivial) _ hstart
  intro k w _ hw
  obtain ⟨name, names, rfl⟩ := List.exists_cons_of_ne_nil hne
  simp only [Prog.wp_bind]
  have hread : ∀ (w : MessagingWorld) c fault, Attempting (name :: names) s w →
      Attempting (name :: names) s (w.record (.getQueueUrl c) fault w.store) :=
    fun w c fault hw => hw.record c fault
  refine Prog.wp_mono (wp_getQueueUrls hread (name :: names) w hw) ?_ ?_
  · intro _ w₁ hw₁
    obtain ⟨rfl, -, hw₁, -⟩ := hw₁
    refine Prog.wp_mono (wp_publishFiles hno hnodup messages hw₁.present hw₁.reported) ?_ ?_
    · intro _ w₂ hw₂
      obtain ⟨hpresent, hreported, honward, hfiles⟩ := hw₂
      exact ⟨hpresent, hreported, w₁, hfiles, honward, hw₁⟩
    · -- only a failure that is not an `Exception` starts the next attempt here
      intro t w₂ hw₂
      obtain ⟨hpresent, hreported, honward, hexc⟩ := hw₂
      rw [afterError_nil]
      refine ⟨hpresent, (hw₁.onward.trans honward).trans (.emit _), ?_,
        fun hexceptions => absurd hexceptions hexc⟩
      have hprinted : Reported (Console.emit (.line (Retry.errorText t)) w₂) t :=
        .inr (List.mem_append_right _ (List.mem_singleton_self _))
      refine AllReported.report ?_ hprinted
      intro r hr hsend f hf
      exact (hreported r hr hsend f hf).imp_left fun h => h.grow (List.prefix_append _ _)
  · intro t w₁ hw₁
    rw [afterError_nil]
    exact hw₁.1.emit _

end Steps

/-- Every listed queue has received exactly `expected`. -/
def ReceivedExactly (queueNames : List String) (expected : List String)
    (s s' : MessagingStore) : Prop :=
  ∀ c ∈ queueNames, (s'.queues c).map Queue.messages =
    (s.queues c).map fun q => q.messages ++ expected

/-- For queues that exist and still do, what was received is what comes behind the messages
before. -/
theorem receivedExactly_iff {queueNames expected : List String} {s s' : MessagingStore}
    (hexist : ∀ c ∈ queueNames, (s.queues c).isSome)
    (hpresent : ∀ c ∈ queueNames, (s'.queues c).isSome) :
    ReceivedExactly queueNames expected s s' ↔
      ∀ c ∈ queueNames, messagesOf s' c = messagesOf s c ++ expected := by
  unfold ReceivedExactly messagesOf
  apply forall_congr'
  intro c
  apply imp_congr_right
  intro hc
  obtain ⟨q, hq⟩ := Option.isSome_iff_exists.mp (hexist c hc)
  obtain ⟨q', hq'⟩ := Option.isSome_iff_exists.mp (hpresent c hc)
  simp [hq, hq']

/-- **What a publication that reports success has delivered**, file by file: each file has gone
to all queues whole, or as far as to the `sendMessage` that failed; and every failed
`sendMessage` is on the console.  If those threw `Exception`s only, nothing else was sent, and
the queues have received exactly the lines of all files if and only if no `sendMessage` failed.
SRC: aws/sqs/PublishSqsTask.java:54-141, core/Retry.java:72-93 -/
theorem publish_loses_only_reported (sqs : MessagingClient) (queueNames : List String)
    (messages : List MessageFile) (s : MessagingStore) (hne : queueNames ≠ [])
    (hnodup : queueNames.Nodup) (hexist : ∀ c ∈ queueNames, (s.queues c).isSome)
    (hno : sqs.sched.NoEffect) (w' : MessagingWorld)
    (hrun : PublishSqsTask.run sqs ⟨some queueNames, some messages⟩ (World.start s) =
      (.returned (), w')) :
    AllReported none w' ∧
    (∃ w, FilesPublished sqs queueNames messages w w' ∧
      (∀ c ∈ queueNames, messagesOf s c <+: messagesOf w.store c) ∧
      (FailsWithExceptions w' → NothingSent w ∧ w.store = s)) ∧
    (¬ SendFailed w' → ReceivedExactly queueNames (publishedLines messages) s w'.store) ∧
    (FailsWithExceptions w' → SendFailed w' →
      ¬ ReceivedExactly queueNames (publishedLines messages) s w'.store) := by
  obtain ⟨hpresent, hreported, w, hfiles, honward, hattempt⟩ :=
    Prog.wp_returned (wp_publish_run hno hne hnodup messages hexist) hrun
  have huntouched : FailsWithExceptions w' → NothingSent w ∧ w.store = s :=
    fun hexceptions => hattempt.untouched (hexceptions.of_onward honward)
  rw [receivedExactly_iff hexist hpresent]
  refine ⟨hreported, ⟨w, hfiles, hattempt.onward.messages, huntouched⟩, ?_, ?_⟩
  · intro hclean
    have hexceptions : FailsWithExceptions w' := by
      intro r hr hsend f hf
      exact absurd ⟨r, hr, hsend, by rw [hf]; rfl⟩ hclean
    rcases hfiles.received with ⟨-, hall⟩ | ⟨hfailed, -⟩
    · rw [(huntouched hexceptions).2] at hall
      exact hall
    · exact absurd (sendFailed_iff.mpr hfailed) hclean
  · intro hexceptions hfailed hexact
    obtain ⟨hnothing, hstore⟩ := huntouched hexceptions
    rcases hfiles.received with ⟨hclear, -⟩ | ⟨-, -, c, hc, hlt⟩
    · obtain ⟨r, hr, hsend⟩ := sendFailed_iff.mp hfailed
      rw [hclear] at hr
      rw [hnothing r (List.mem_filter.mp hr).1] at hsend
      cases hsend
    · rw [hstore, hexact c hc, List.length_append] at hlt
      exact absurd hlt (lt_irrefl _)

/-- A text file with three lines, one of them empty. -/
def sampleFile : MessageFile where
  getName := "messages.json"
  getAbsolutePath := "/work/messages.json"
  text := .ok ⟨["1", "", "2"], none⟩
  archive := .error ⟨.plain .ioException (some "Input is not in the .gz format"), rfl⟩

/-- A failed `getQueueUrl` costs an attempt, and no message. -/
theorem publish_survives_failed_getQueueUrl :
    ReceivedExactly ["orders", "audit"] ["1", "2"] twoQueues
      (PublishSqsTask.run ⟨sampleAddresses, .only 0 unavailable⟩
        ⟨some ["orders", "audit"], some [sampleFile]⟩ (World.start twoQueues)).2.store := by
  have h := publish_loses_only_reported ⟨sampleAddresses, .only 0 unavailable⟩
    ["orders", "audit"] [sampleFile] twoQueues (by decide) (by decide) (by decide)
    (Schedule.noEffect_only rfl) _ (Prod.ext (by decide) rfl)
  apply h.2.2.1
  unfold SendFailed
  decide

/-- A failed `sendMessage` goes by without an error, and the rest of the file is lost. -/
theorem publish_loses_messages :
    ¬ ∀ (sqs : MessagingClient) (queueNames : List String) (messages : List MessageFile)
      (s : MessagingStore), queueNames ≠ [] → queueNames.Nodup →
      (∀ c ∈ queueNames, (s.queues c).isSome) → sqs.sched.NoEffect → ∀ w' : MessagingWorld,
      PublishSqsTask.run sqs ⟨some queueNames, some messages⟩ (World.start s) =
        (.returned (), w') →
      ReceivedExactly queueNames (publishedLines messages) s w'.store := by
  intro h
  have hexact := h ⟨sampleAddresses, .only 3 unavailable⟩ ["orders", "audit"] [sampleFile]
    twoQueues (by decide) (by decide) (by decide) (Schedule.noEffect_only rfl) _
    (Prod.ext (by decide) rfl)
  exact absurd (hexact "audit" (by decide)) (by decide)

end GradleLocalstack.Analysis
