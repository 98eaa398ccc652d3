import GradleLocalstack.Program.SqsTasks

/-!
# What a message file holds

The two readers of `PublishSqsTask`, for a text file and for an archive, send the lines of
the file that are not empty, one by one to all queues, and end with the exception that the
reading ended with, if there was one.  So each is one loop over `fileLines`, followed by
`finish (fileFailure file)`.
-/

set_option autoImplicit false

namespace GradleLocalstack.Analysis

open Foundation GradleLocalstack.Model GradleLocalstack.Program

/-- The lines that are sent: empty ones are not. -/
def nonEmpty (lines : List String) : List String := lines.filter fun line => line ≠ ""

/-- No line is sent of no lines. -/
@[simp] theorem nonEmpty_nil : nonEmpty [] = [] := rfl

/-- Of two lists in a row, the lines of the first are sent first. -/
@[simp] theorem nonEmpty_append (lines lines' : List String) :
    nonEmpty (lines ++ lines') = nonEmpty lines ++ nonEmpty lines' :=
  List.filter_append ..

/-- The lines of the entries that are not hidden, up to the first that cannot be read to
its end. -/
def entryLines : List TarArchiveEntry → List String
  | [] => []
  | te :: entries =>
    if PublishSqsTask.isHidden te then entryLines entries
    else te.lines.items ++ if te.lines.failure.isSome then [] else entryLines entries

/-- The lines of a message file: none if it cannot be opened. -/
def fileLines (file : MessageFile) : List String :=
  if PublishSqsTask.isSupportedArchive file then
    match file.archive with
    | .error _ => []
    | .ok source => entryLines source.items
  else
    match file.text with
    | .error _ => []
    | .ok source => source.items

/-- The exception that ends the reading of the entries, if there is one. -/
def entriesFailure : List TarArchiveEntry → Option JavaException
  | [] => none
  | te :: entries =>
    if PublishSqsTask.isHidden te then entriesFailure entries
    else te.lines.failure.or (entriesFailure entries)

/-- The exception that ends the reading of a message file, if there is one. -/
def fileFailure (file : MessageFile) : Option JavaException :=
  if PublishSqsTask.isSupportedArchive file then
    match file.archive with
    | .error e => some e
    | .ok source => (entriesFailure source.items).or source.failure
  else
    match file.text with
    | .error e => some e
    | .ok source => source.failure

/-! ## The readers as one loop -/

section Readers

variable (sqs : MessagingClient) (queueUrls : List String)

/-- One message to every queue. -/
def sendToAll (messageBody : String) : Prog MessagingWorld Throwable Unit :=
  Prog.forEach (fun queueUrl => sqs.sendMessage queueUrl messageBody) queueUrls

/-- The end of a reading. -/
def finish (failure : Option JavaException) : Prog MessagingWorld Throwable Unit :=
  failure.elim (pure ()) fun e => throw e.val

/-- Publishing lines sends those that are not empty. -/
theorem publishLines_eq (lines : List String) :
    Prog.forEach (PublishSqsTask.publishLine sqs queueUrls) lines =
      Prog.forEach (sendToAll sqs queueUrls) (nonEmpty lines) := by
  induction lines with
  | nil => rfl
  | cons line lines ih =>
    rw [Prog.forEach, ih]
    unfold PublishSqsTask.publishLine
    by_cases hempty : line = ""
    · have hrest : nonEmpty (line :: lines) = nonEmpty lines := by simp [nonEmpty, hempty]
      rw [if_pos hempty, hrest, pure_bind]
    · have hline : nonEmpty (line :: lines) = line :: nonEmpty lines := by
        simp [nonEmpty, hempty]
      rw [if_neg hempty, hline, Prog.forEach]
      rfl

/-- Reading a source to its end, as one loop over its lines. -/
theorem readLines_eq (source : Source String) :
    PublishSqsTask.readAll (PublishSqsTask.publishLine sqs queueUrls) source = (do
      Prog.forEach (sendToAll sqs queueUrls) (nonEmpty source.items)
      finish source.failure) := by
  unfold PublishSqsTask.readAll
  rw [publishLines_eq]
  cases source.failure <;> rfl

/-- **The entries of an archive** as one loop over their lines. -/
theorem processEntries_eq (entries : List TarArchiveEntry) :
    Prog.forEach (PublishSqsTask.processEntry sqs queueUrls) entries = (do
      Prog.forEach (sendToAll sqs queueUrls) (nonEmpty (entryLines entries))
      finish (entriesFailure entries)) := by
  induction entries with
  | nil => rfl
  | cons te entries ih =>
    rw [Prog.forEach, ih, entryLines, entriesFailure]
    unfold PublishSqsTask.processEntry
    by_cases hhidden : PublishSqsTask.isHidden te = true
    · rw [if_pos hhidden, if_pos hhidden, if_pos hhidden, pure_bind]
    · rw [if_neg hhidden, if_neg hhidden, if_neg hhidden, readLines_eq, bind_assoc]
      cases te.lines.failure with
      | none =>
        rw [nonEmpty_append, Prog.forEach_append, bind_assoc]
        rfl
      | some e =>
        -- the entries after one that cannot be read are not processed
        rw [nonEmpty_append]
        simp [finish, Prog.throw_bind]

variable {file : MessageFile}

/-- An archive that can be opened, as one loop over its lines. -/
theorem processArchive_eq {source : Source TarArchiveEntry} (h : file.archive = .ok source) :
    PublishSqsTask.processArchive sqs queueUrls file = (do
      log s!"Processing message archive: {file.getAbsolutePath}"
      Prog.forEach (sendToAll sqs queueUrls) (nonEmpty (entryLines source.items))
      finish ((entriesFailure source.items).or source.failure)) := by
  unfold PublishSqsTask.processArchive PublishSqsTask.openAndRead PublishSqsTask.readAll
  rw [h]
  simp only [processEntries_eq, bind_assoc]
  congr 1
  funext _
  congr 1
  funext _
  cases entriesFailure source.items <;> cases source.failure <;> rfl

/-- A text file that can be opened, as one loop over its lines. -/
theorem processFile_eq {source : Source String} (h : file.text = .ok source) :
    PublishSqsTask.processFile sqs queueUrls file = (do
      log s!"Processing message file: {file.getAbsolutePath}"
      Prog.forEach (sendToAll sqs queueUrls) (nonEmpty source.items)
      finish source.failure) := by
  unfold PublishSqsTask.processFile PublishSqsTask.openAndRead
  rw [h]
  simp only [readLines_eq]

/-- What is printed before a message file is read. -/
def processingText (file : MessageFile) : String :=
  if PublishSqsTask.isSupportedArchive file then
    s!"Processing message archive: {file.getAbsolutePath}"
  else s!"Processing message file: {file.getAbsolutePath}"

/-- **A message file**, whichever reader it goes to. -/
theorem processMessages_eq (file : MessageFile) :
    (if PublishSqsTask.isSupportedArchive file then
      PublishSqsTask.processArchive sqs queueUrls file
      else PublishSqsTask.processFile sqs queueUrls file) = (do
      log (processingText file)
      Prog.forEach (sendToAll sqs queueUrls) (nonEmpty (fileLines file))
      finish (fileFailure file)) := by
  unfold processingText fileLines fileFailure
  cases PublishSqsTask.isSupportedArchive file with
  | true =>
    cases harchive : file.archive with
    | error e =>
      simp only [if_true, PublishSqsTask.processArchive, harchive]
      rfl
    | ok source => simp only [if_true, processArchive_eq sqs queueUrls harchive]
  | false =>
    cases htext : file.text with
    | error e =>
      simp only [Bool.false_eq_true, if_false, PublishSqsTask.processFile, htext]
      rfl
    | ok source => simp only [Bool.false_eq_true, if_false, processFile_eq sqs queueUrls htext]

end Readers

end GradleLocalstack.Analysis
