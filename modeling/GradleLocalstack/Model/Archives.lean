import GradleLocalstack.Model.Strings

/-!
# Files in bytes, and archives of them

A regular file holds bytes; here they are always valid UTF-8, and the text they are the
encoding of is `TextFile.text`.  A charset makes a text of any bytes, replacing what it
cannot decode.  An archive is a sequence of entries, each with its path.
-/

set_option autoImplicit false

namespace GradleLocalstack.Model

/-- `BufferedReader.readLine`, until there are no more lines: `line` is what has been read of
the current one.  A line ends with a line feed, a carriage return, or both; the last one may
end with the text. -/
def readLinesFrom (line : List Char) : List Char → List String
  | [] => if line = [] then [] else [String.ofList line]
  | '\r' :: '\n' :: cs => String.ofList line :: readLinesFrom [] cs
  | '\r' :: cs => String.ofList line :: readLinesFrom [] cs
  | '\n' :: cs => String.ofList line :: readLinesFrom [] cs
  | c :: cs => readLinesFrom (line ++ [c]) cs

/-- The lines of a text, as `BufferedReader.readLine` returns them. -/
def readLines (text : String) : List String := readLinesFrom [] text.toList

example : readLines "1\n\n2\r\n3" = ["1", "", "2", "3"] := by decide

/-- A charset, as an `InputStreamReader` decodes with it. -/
structure Charset where
  decode : ByteArray → String

/-- UTF-8; what becomes of bytes that are not valid is left out. -/
def Charset.utf8 : Charset where
  decode bytes := if h : bytes.IsValidUTF8 then String.fromUTF8 bytes h else ""

/-- ISO-8859-1: each byte is a character. -/
def Charset.latin1 : Charset where
  decode bytes := String.ofList (bytes.data.toList.map fun b => Char.ofNat b.toNat)

/-- A regular file with valid UTF-8 bytes. -/
structure TextFile where
  bytes : ByteArray
  valid : bytes.IsValidUTF8

namespace TextFile

/-- The text that the bytes encode. -/
def text (f : TextFile) : String := String.fromUTF8 f.bytes f.valid

/-- The file that holds a text. -/
def ofText (text : String) : TextFile := ⟨text.toByteArray, text.isValidUTF8⟩

/-- The text of the file that is written for a text is that text. -/
@[simp] theorem text_ofText (s : String) : (ofText s).text = s := rfl

/-- UTF-8 reads back the text of a file. -/
@[simp] theorem utf8_decode (f : TextFile) : Charset.utf8.decode f.bytes = f.text :=
  dif_pos f.valid

end TextFile

/-- What an entry of an archive is: a directory, or a file. -/
inductive EntryContent where
  | directory
  | regular (file : TextFile)

/-- An entry of an archive, by its path in it. -/
structure ArchiveEntry where
  path : String
  content : EntryContent

/-- A file is hidden if the last segment of its path starts with a dot. -/
def ArchiveEntry.hidden (e : ArchiveEntry) : Bool :=
  ".".toList.isPrefixOf (afterLast '/' e.path).toList

end GradleLocalstack.Model
