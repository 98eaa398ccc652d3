import GradleLocalstack.Model.Archives
import GradleLocalstack.Program.SqsTasks

/-!
# Message files in bytes

What the two readers of `PublishSqsTask` get from a text file and from an archive.  A text
file is read as UTF-8; the entries of an archive are read in the default charset of the
platform.
-/

set_option autoImplicit false

namespace GradleLocalstack.Program

open GradleLocalstack.Model

/-- What a `GzipCompressorInputStream` throws on a file that does not start as one. -/
def notGzip : Throwable := .plain .ioException (some "Input is not in the .gz format")

/-- What a UTF-8 reader throws on the second byte of a `.gz` file. -/
def malformedInput : Throwable :=
  .plain ⟨"java.nio.charset.MalformedInputException", true⟩ (some "Input length = 1")

/-- A text file; its bytes do not start a `.gz` file, as they are valid UTF-8.
SRC: aws/sqs/PublishSqsTask.java:131 -/
def textMessageFile (path : String) (file : TextFile) : MessageFile where
  getName := afterLast '/' path
  getAbsolutePath := path
  text := .ok ⟨readLines file.text, none⟩
  archive := .error ⟨notGzip, rfl⟩

/-- An entry as it is read from the archive: a directory has nothing to read.
SRC: aws/sqs/PublishSqsTask.java:98-106 -/
def tarArchiveEntry (defaultCharset : Charset) (e : ArchiveEntry) : TarArchiveEntry where
  getName := e.path
  lines :=
    match e.content with
    | .directory => ⟨[], none⟩
    | .regular file => ⟨readLines (defaultCharset.decode file.bytes), none⟩

/-- An archive with the given entries.
SRC: aws/sqs/PublishSqsTask.java:93-106 -/
def archiveMessageFile (defaultCharset : Charset) (path : String) (entries : List ArchiveEntry) :
    MessageFile where
  getName := afterLast '/' path
  getAbsolutePath := path
  text := .ok ⟨[], some ⟨malformedInput, rfl⟩⟩
  archive := .ok ⟨entries.map (tarArchiveEntry defaultCharset), none⟩

end GradleLocalstack.Program
