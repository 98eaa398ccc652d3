import GradleLocalstack.Analysis.MessageFiles
import GradleLocalstack.Analysis.MessagingService
import GradleLocalstack.Program.MessageArchive

/-!
# Archives and the files in them

`processArchive` reads every entry whose path does not start with a dot, in the default
charset of the platform; `processFile` would read a file of the archive as UTF-8, and a file
is hidden if the last segment of its path starts with a dot.  The two send the same lines
if they take every entry alike (`TakenAlike`), and only then if they are to do so after each
entry: two entries that are taken differently can make up for each other.
-/

set_option autoImplicit false

namespace GradleLocalstack.Analysis

open Foundation GradleLocalstack.Model GradleLocalstack.Program

/-! ## What is sent, and what should be -/

/-- The files of the archive that are not hidden. -/
def visibleFiles (entries : List ArchiveEntry) : List MessageFile :=
  entries.filterMap fun e =>
    match e.content with
    | .directory => none
    | .regular file => if e.hidden then none else some (textMessageFile e.path file)

/-- The lines of an entry that are sent. -/
def sentLines (defaultCharset : Charset) (e : ArchiveEntry) : List String :=
  let te := tarArchiveEntry defaultCharset e
  if PublishSqsTask.isHidden te then [] else nonEmpty te.lines.items

/-- The lines of an entry that should be sent: those of a file that is not hidden, as
UTF-8. -/
def visibleLines (e : ArchiveEntry) : List String :=
  match e.content with
  | .directory => []
  | .regular file => if e.hidden then [] else nonEmpty (readLines file.text)

/-- The bodies of the messages that a call sends to a queue. -/
def bodyTo (queueUrl : String) : MessagingCall → Option String
  | .sendMessage url messageBody => if url = queueUrl then some messageBody else none
  | _ => none

/-- Without failures, `processArchive` sends to each queue what `processFile` would send of
the files that are not hidden. -/
def PublishesItsFiles (addresses : Addresses) (queueNames : List String)
    (defaultCharset : Charset) (path : String) (entries : List ArchiveEntry)
    (w : MessagingWorld) : Prop :=
  let sqs : MessagingClient := ⟨addresses, .clear⟩
  let queueUrls := queueNames.map addresses.queueUrls.address
  let fromArchive := PublishSqsTask.processArchive sqs queueUrls
    (archiveMessageFile defaultCharset path entries) w
  let fromFiles := Prog.forEach (PublishSqsTask.processFile sqs queueUrls) (visibleFiles entries) w
  fromArchive.1 = .returned () ∧ fromFiles.1 = .returned () ∧
    ∀ queueUrl, fromArchive.2.requested (bodyTo queueUrl) =
      fromFiles.2.requested (bodyTo queueUrl)

/-- The path starts with a dot. -/
def dotted (e : ArchiveEntry) : Bool := ".".toList.isPrefixOf e.path.toList

/-- The default charset reads the same lines from the file as UTF-8, up to empty ones. -/
def ReadAlike (defaultCharset : Charset) (file : TextFile) : Prop :=
  nonEmpty (readLines (defaultCharset.decode file.bytes)) = nonEmpty (readLines file.text)

/-- The entry is a directory, or a file whose path starts with a dot exactly if its last segment
does and that the default charset reads as UTF-8 does if neither does.  Where only one of the
two starts with a dot the file has nothing to send. -/
def TakenAlike (defaultCharset : Charset) (e : ArchiveEntry) : Prop :=
  ∀ file, e.content = .regular file →
    if dotted e = e.hidden then e.hidden = false → ReadAlike defaultCharset file
    else if e.hidden then nonEmpty (readLines (defaultCharset.decode file.bytes)) = []
    else nonEmpty (readLines file.text) = []

/-- The lines of a regular file that are sent. -/
theorem sentLines_regular {e : ArchiveEntry} {file : TextFile} (h : e.content = .regular file)
    (defaultCharset : Charset) :
    sentLines defaultCharset e =
      if dotted e then [] else nonEmpty (readLines (defaultCharset.decode file.bytes)) := by
  unfold sentLines tarArchiveEntry
  dsimp only
  rw [h]
  rfl

/-- The lines of a regular file that should be sent. -/
theorem visibleLines_regular {e : ArchiveEntry} {file : TextFile}
    (h : e.content = .regular file) :
    visibleLines e = if e.hidden then [] else nonEmpty (readLines file.text) := by
  unfold visibleLines
  rw [h]

/-- **An entry is taken alike** exactly if the lines that are sent are those that should be. -/
theorem sentLines_eq_visibleLines_iff (defaultCharset : Charset) (e : ArchiveEntry) :
    sentLines defaultCharset e = visibleLines e ↔ TakenAlike defaultCharset e := by
  unfold TakenAlike
  cases hcontent : e.content with
  | directory =>
    have hsent : sentLines defaultCharset e = visibleLines e := by
      unfold sentLines visibleLines tarArchiveEntry
      simp [hcontent]
    exact iff_of_true hsent fun file hfile => by cases hfile
  | regular file =>
    rw [sentLines_regular hcontent, visibleLines_regular hcontent]
    simp only [EntryContent.regular.injEq, forall_eq']
    cases dotted e <;> cases e.hidden
    · simp [ReadAlike]
    · simp
    · simp [@eq_comm _ []]
    · simp

/-! ## What the readers send -/

section Sent

variable {addresses : Addresses} {queueNames : List String} {w : MessagingWorld}

/-- **One message** to all queues, as often as a queue is listed. -/
theorem wp_sendToAll_clear (queueUrl messageBody : String)
    (hexist : ∀ c ∈ queueNames, (w.store.queues c).isSome) :
    (sendToAll ⟨addresses, .clear⟩ (queueNames.map addresses.queueUrls.address) messageBody).wp
      (fun _ w' => (∀ c, (w.store.queues c).isSome → (w'.store.queues c).isSome) ∧
        w'.requested (bodyTo queueUrl) = w.requested (bodyTo queueUrl) ++
          List.replicate ((queueNames.map addresses.queueUrls.address).count queueUrl) messageBody)
      (fun _ _ => False) w := by
  unfold sendToAll
  induction queueNames generalizing w with
  | nil => exact ⟨fun _ h => h, (List.append_nil _).symm⟩
  | cons c queueNames ih =>
    obtain ⟨q, hq⟩ := Option.isSome_iff_exists.mp (hexist c List.mem_cons_self)
    have hx : (Messaging.service addresses).exec
        (.sendMessage (addresses.queueUrls.address c) messageBody) w.store =
        (.ok (), ⟨Function.update w.store.queues c
          (some { q with messages := q.messages ++ [messageBody] }), w.store.topics⟩) :=
      sendMessage_of_some hq
    have hkept : ∀ d, (w.store.queues d).isSome → (Function.update w.store.queues c
        (some { q with messages := q.messages ++ [messageBody] }) d).isSome :=
      fun d hd => isSome_update _ hd
    rw [List.map_cons, Prog.forEach, Prog.wp_bind]
    refine Prog.wp_conseq (wp_call_clear hx) ?_
    intro _ w₁ hw₁
    obtain ⟨-, rfl⟩ := hw₁
    have hexist₁ : ∀ d ∈ queueNames, (Function.update w.store.queues c
        (some { q with messages := q.messages ++ [messageBody] }) d).isSome :=
      fun d hd => hkept d (hexist d (List.mem_cons_of_mem c hd))
    refine Prog.wp_conseq (ih (w := w.record _ none _) hexist₁) ?_
    intro _ w' hw'
    obtain ⟨hkept', hsent⟩ := hw'
    refine ⟨fun d hd => hkept' d (hkept d hd), ?_⟩
    rw [hsent, World.requested_record, List.append_assoc, List.count_cons]
    congr 1
    by_cases heq : addresses.queueUrls.address c = queueUrl
    · simp [bodyTo, heq, List.replicate_succ]
    · simp [bodyTo, heq]

/-- What the lines come to at a queue that is listed `n` times. -/
def repeated (n : ℕ) (lines : List String) : List String := lines.flatMap (List.replicate n)

/-- No line is repeated no times. -/
theorem repeated_zero (lines : List String) : repeated 0 lines = [] :=
  List.flatMap_eq_nil_iff.mpr fun _ _ => List.replicate_zero

/-- Repeating two lists in a row. -/
theorem repeated_append (n : ℕ) (lines lines' : List String) :
    repeated n (lines ++ lines') = repeated n lines ++ repeated n lines' :=
  List.flatMap_append ..

/-- What comes to a queue that is listed tells what was sent. -/
theorem repeated_injective {n : ℕ} {lines lines' : List String}
    (h : repeated (n + 1) lines = repeated (n + 1) lines') : lines = lines' := by
  induction lines generalizing lines' with
  | nil =>
    cases lines' with
    | nil => rfl
    | cons line' lines' => cases h
  | cons line lines ih =>
    cases lines' with
    | nil => cases h
    | cons line' lines' =>
      have hhead : line = line' := by
        have hfirst := congrArg List.head? h
        simpa [repeated, List.replicate_succ] using hfirst
      subst hhead
      have htail : repeated (n + 1) lines = repeated (n + 1) lines' := by
        simpa [repeated] using h
      rw [ih htail]

/-- **Lines** to all queues. -/
theorem wp_sendLines_clear (queueUrl : String) (lines : List String)
    (hexist : ∀ c ∈ queueNames, (w.store.queues c).isSome) :
    (Prog.forEach (sendToAll ⟨addresses, .clear⟩ (queueNames.map addresses.queueUrls.address))
      lines).wp
      (fun _ w' => (∀ c ∈ queueNames, (w'.store.queues c).isSome) ∧
        w'.requested (bodyTo queueUrl) = w.requested (bodyTo queueUrl) ++
          repeated ((queueNames.map addresses.queueUrls.address).count queueUrl) lines)
      (fun _ _ => False) w := by
  induction lines generalizing w with
  | nil => exact ⟨hexist, (List.append_nil _).symm⟩
  | cons line lines ih =>
    rw [Prog.forEach, Prog.wp_bind]
    apply Prog.wp_conseq (wp_sendToAll_clear queueUrl line hexist)
    intro _ w₁ hw₁
    obtain ⟨hkept, hline⟩ := hw₁
    apply Prog.wp_conseq (ih fun c hc => hkept c (hexist c hc))
    intro _ w' hw'
    obtain ⟨hexist', hrest⟩ := hw'
    refine ⟨hexist', ?_⟩
    rw [hrest, hline, List.append_assoc]
    rfl

/-- **A reading** that does not fail. -/
theorem wp_reading_clear (text queueUrl : String) (lines : List String)
    (hexist : ∀ c ∈ queueNames, (w.store.queues c).isSome) :
    Prog.wp (do
      log text
      Prog.forEach (sendToAll ⟨addresses, .clear⟩ (queueNames.map addresses.queueUrls.address))
        lines
      finish none)
      (fun _ w' => (∀ c ∈ queueNames, (w'.store.queues c).isSome) ∧
        w'.requested (bodyTo queueUrl) = w.requested (bodyTo queueUrl) ++
          repeated ((queueNames.map addresses.queueUrls.address).count queueUrl) lines)
      (fun _ _ => False) w := by
  rw [Prog.wp_bind, wp_log, Prog.wp_bind]
  exact wp_sendLines_clear (w := Console.emit (.line text) w) queueUrl lines hexist

/-- The entries of an archive as they are read: none fails. -/
theorem entriesFailure_eq_none (defaultCharset : Charset) (entries : List ArchiveEntry) :
    entriesFailure (entries.map (tarArchiveEntry defaultCharset)) = none := by
  induction entries with
  | nil => rfl
  | cons e entries ih =>
    have hfailure : (tarArchiveEntry defaultCharset e).lines.failure = none := by
      unfold tarArchiveEntry
      cases e.content <;> rfl
    rw [List.map_cons, entriesFailure, ih, hfailure]
    exact ite_self none

/-- The lines that are sent of an archive are those of its entries, one after the other. -/
theorem nonEmpty_entryLines (defaultCharset : Charset) (entries : List ArchiveEntry) :
    nonEmpty (entryLines (entries.map (tarArchiveEntry defaultCharset))) =
      entries.flatMap (sentLines defaultCharset) := by
  induction entries with
  | nil => rfl
  | cons e entries ih =>
    have hfailure : (tarArchiveEntry defaultCharset e).lines.failure.isSome = false := by
      unfold tarArchiveEntry
      cases e.content <;> rfl
    rw [List.map_cons, entryLines, hfailure, if_neg Bool.false_ne_true, List.flatMap_cons, ← ih]
    unfold sentLines
    dsimp only
    split
    · rfl
    · exact nonEmpty_append ..

/-- **The archive**: the lines of its entries go to all queues. -/
theorem wp_processArchive_clear (addresses : Addresses) (defaultCharset : Charset) (path : String)
    (entries : List ArchiveEntry) (queueUrl : String)
    (hexist : ∀ c ∈ queueNames, (w.store.queues c).isSome) :
    (PublishSqsTask.processArchive ⟨addresses, .clear⟩
      (queueNames.map addresses.queueUrls.address)
      (archiveMessageFile defaultCharset path entries)).wp
      (fun _ w' => w'.requested (bodyTo queueUrl) = w.requested (bodyTo queueUrl) ++
        repeated ((queueNames.map addresses.queueUrls.address).count queueUrl)
          (entries.flatMap (sentLines defaultCharset)))
      (fun _ _ => False) w := by
  rw [processArchive_eq _ _ rfl, nonEmpty_entryLines, entriesFailure_eq_none]
  apply Prog.wp_conseq (wp_reading_clear _ queueUrl _ hexist)
  intro _ w' hw'
  exact hw'.2

/-- **The files**, one after the other: their lines go to all queues. -/
theorem wp_processFiles_clear (addresses : Addresses) (entries : List ArchiveEntry)
    (queueUrl : String) (hexist : ∀ c ∈ queueNames, (w.store.queues c).isSome) :
    (Prog.forEach (PublishSqsTask.processFile ⟨addresses, .clear⟩
      (queueNames.map addresses.queueUrls.address)) (visibleFiles entries)).wp
      (fun _ w' => w'.requested (bodyTo queueUrl) = w.requested (bodyTo queueUrl) ++
        repeated ((queueNames.map addresses.queueUrls.address).count queueUrl)
          (entries.flatMap visibleLines))
      (fun _ _ => False) w := by
  induction entries generalizing w with
  | nil => exact (List.append_nil _).symm
  | cons e entries ih =>
    have hskipped : visibleFiles (e :: entries) = visibleFiles entries → visibleLines e = [] →
        (Prog.forEach (PublishSqsTask.processFile ⟨addresses, .clear⟩
          (queueNames.map addresses.queueUrls.address)) (visibleFiles (e :: entries))).wp
          (fun _ w' => w'.requested (bodyTo queueUrl) = w.requested (bodyTo queueUrl) ++
            repeated ((queueNames.map addresses.queueUrls.address).count queueUrl)
              ((e :: entries).flatMap visibleLines))
          (fun _ _ => False) w := by
      intro hfiles hlines
      rw [hfiles, List.flatMap_cons, hlines, List.nil_append]
      exact ih hexist
    cases hcontent : e.content with
    | directory =>
      apply hskipped
      · simp [visibleFiles, hcontent]
      · simp [visibleLines, hcontent]
    | regular file =>
      by_cases hhidden : e.hidden = true
      · apply hskipped
        · simp [visibleFiles, hcontent, hhidden]
        · simp [visibleLines, hcontent, hhidden]
      · have hfiles : visibleFiles (e :: entries) =
            textMessageFile e.path file :: visibleFiles entries := by
          simp [visibleFiles, hcontent, hhidden]
        have hlines : visibleLines e = nonEmpty (readLines file.text) := by
          simp [visibleLines, hcontent, hhidden]
        rw [hfiles, List.flatMap_cons, hlines, Prog.forEach, Prog.wp_bind,
          processFile_eq _ _ rfl]
        apply Prog.wp_conseq (wp_reading_clear _ queueUrl _ hexist)
        intro _ w₁ hw₁
        obtain ⟨hexist₁, hfile⟩ := hw₁
        apply Prog.wp_conseq (ih (w := w₁) hexist₁)
        intro _ w' hrest
        rw [hrest, hfile, List.append_assoc, ← repeated_append]

end Sent

/-- The archive publishes what its files would if the lines of all its entries come to the
same. -/
theorem publishesItsFiles_iff (addresses : Addresses) (queueNames : List String)
    (defaultCharset : Charset) (path : String) (entries : List ArchiveEntry) (w : MessagingWorld)
    (hexist : ∀ c ∈ queueNames, (w.store.queues c).isSome) :
    PublishesItsFiles addresses queueNames defaultCharset path entries w ↔
      queueNames = [] ∨
        entries.flatMap (sentLines defaultCharset) = entries.flatMap visibleLines := by
  have harchive := fun queueUrl => Prog.wp_returns
    (wp_processArchive_clear addresses defaultCharset path entries queueUrl hexist)
  have hfiles := fun queueUrl => Prog.wp_returns
    (wp_processFiles_clear addresses entries queueUrl hexist)
  constructor
  · intro h
    obtain ⟨-, -, hsame⟩ := h
    cases queueNames with
    | nil => exact .inl rfl
    | cons c queueNames =>
      right
      -- what the first queue gets tells the lines
      have hfirst := hsame (addresses.queueUrls.address c)
      rw [(harchive _).2, (hfiles _).2, List.append_cancel_left_eq, List.map_cons,
        List.count_cons_self] at hfirst
      exact repeated_injective hfirst
  · intro h
    refine ⟨(harchive "").1, (hfiles "").1, ?_⟩
    intro queueUrl
    rw [(harchive queueUrl).2, (hfiles queueUrl).2]
    cases h with
    | inl hnone =>
      subst hnone
      rw [List.map_nil, List.count_nil, repeated_zero, repeated_zero]
    | inr hlines => rw [hlines]

/-- **An archive publishes what its files would publish** if no queue is listed, or every entry
is taken alike; and if it does so after each entry, every entry is taken alike.
SRC: aws/sqs/PublishSqsTask.java:90-151 -/
theorem archive_publishes_its_files_iff (addresses : Addresses) (queueNames : List String)
    (defaultCharset : Charset) (path : String) (entries : List ArchiveEntry) (w : MessagingWorld)
    (hexist : ∀ c ∈ queueNames, (w.store.queues c).isSome) :
    ((queueNames = [] ∨ ∀ e ∈ entries, TakenAlike defaultCharset e) →
      PublishesItsFiles addresses queueNames defaultCharset path entries w) ∧
    ((∀ beginning, beginning <+: entries →
        PublishesItsFiles addresses queueNames defaultCharset path beginning w) →
      queueNames = [] ∨ ∀ e ∈ entries, TakenAlike defaultCharset e) := by
  constructor
  · intro h
    apply (publishesItsFiles_iff addresses queueNames defaultCharset path entries w hexist).mpr
    refine h.imp_right fun halike => ?_
    exact List.flatMap_congr fun e he =>
      (sentLines_eq_visibleLines_iff defaultCharset e).mpr (halike e he)
  · intro h
    by_cases hnone : queueNames = []
    · exact .inl hnone
    right
    have hlines : ∀ beginning, beginning <+: entries →
        beginning.flatMap (sentLines defaultCharset) = beginning.flatMap visibleLines := by
      intro beginning hbeginning
      have hpublishes := h beginning hbeginning
      rw [publishesItsFiles_iff _ _ _ _ _ _ hexist] at hpublishes
      exact hpublishes.resolve_left hnone
    -- the lines of an entry are what it adds to those of the entries before it
    intro e he
    obtain ⟨before, after, rfl⟩ := List.append_of_mem he
    have hbefore := hlines before (List.prefix_append _ _)
    have hwith := hlines (before ++ [e]) ⟨after, by simp⟩
    rw [List.flatMap_append, List.flatMap_append, hbefore, List.append_cancel_left_eq,
      List.flatMap_singleton, List.flatMap_singleton] at hwith
    exact (sentLines_eq_visibleLines_iff defaultCharset e).mp hwith

/-- An archive of one file, with the given path and text. -/
def archiveOf (path text : String) : List ArchiveEntry :=
  [⟨path, .regular (.ofText text)⟩]

/-- A file in a directory is published as it should be. -/
theorem archive_publishes_file_in_directory :
    PublishesItsFiles sampleAddresses ["orders", "audit"] .utf8 "/work/messages.tgz"
      (archiveOf "dir/a.json" "1\n\n2") (World.start twoQueues) := by
  apply (archive_publishes_its_files_iff sampleAddresses ["orders", "audit"] .utf8
    "/work/messages.tgz" (archiveOf "dir/a.json" "1\n\n2") (World.start twoQueues)
    (by decide)).1
  right
  intro e he
  rw [List.mem_singleton.mp he]
  intro file _
  rw [if_pos (by decide)]
  intro _
  unfold ReadAlike
  rw [file.utf8_decode]

/-- Two entries that are taken differently make up for each other. -/
example : PublishesItsFiles sampleAddresses ["orders"] .utf8 "/work/messages.tgz"
    (archiveOf "./a.json" "1" ++ archiveOf "dir/._a.json" "1") (World.start twoQueues) := by
  rw [publishesItsFiles_iff _ _ _ _ _ _ (by decide)]
  right
  decide

/-- A file in the directory of the archive itself is not published, a hidden file of another
directory is, and a text that the default charset does not read comes out wrong. -/
theorem archive_misses_its_files :
    (¬ PublishesItsFiles sampleAddresses ["orders"] .utf8 "/work/messages.tgz"
      (archiveOf "./a.json" "1") (World.start twoQueues)) ∧
    (¬ PublishesItsFiles sampleAddresses ["orders"] .utf8 "/work/messages.tgz"
      (archiveOf "dir/._a.json" "1") (World.start twoQueues)) ∧
    ¬ PublishesItsFiles sampleAddresses ["orders"] .latin1 "/work/messages.tgz"
      (archiveOf "dir/a.json" "é") (World.start twoQueues) := by
  refine ⟨?_, ?_, ?_⟩
  · intro h
    have hsent := h.2.2 (sampleAddresses.queueUrls.address "orders")
    revert hsent
    decide
  · intro h
    have hsent := h.2.2 (sampleAddresses.queueUrls.address "orders")
    revert hsent
    decide
  · intro h
    have hsent := h.2.2 (sampleAddresses.queueUrls.address "orders")
    revert hsent
    decide

end GradleLocalstack.Analysis
