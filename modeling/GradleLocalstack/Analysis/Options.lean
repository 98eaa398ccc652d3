import GradleLocalstack.Program.S3Tasks
import GradleLocalstack.Program.SqsTasks

/-!
# The comma-delimited options

Four tasks take the names they work on as one comma-delimited text as well.  A name that an
option can carry has no comma and no blanks at its ends; with blanks around it, it is a
`PaddedName`.  Decoding undoes joining: trailing pieces that `split` would drop are never
empty, since there is a name in each.
-/

set_option autoImplicit false

namespace GradleLocalstack.Analysis

open GradleLocalstack.Model GradleLocalstack.Program

/-- A name that an option can carry, and the blanks around it in the text. -/
structure PaddedName where
  before : String
  name : String
  after : String
  blank_before : ∀ c ∈ before.toList, c ≤ ' '
  blank_after : ∀ c ∈ after.toList, c ≤ ' '
  name_ne_empty : name ≠ ""
  comma_free : ',' ∉ name.toList
  head_not_blank : ∀ c ∈ name.toList.head?, ¬ c ≤ ' '
  last_not_blank : ∀ c ∈ name.toList.getLast?, ¬ c ≤ ' '

namespace PaddedName

variable (n : PaddedName)

/-- The piece of the option's text that the name is. -/
def text : String := n.before ++ n.name ++ n.after

/-- Trimming takes the blanks off again. -/
theorem trim_text : trim n.text = n.name :=
  trim_padded n.blank_before n.blank_after n.name_ne_empty n.head_not_blank n.last_not_blank

/-- The piece is not empty, since the name is not. -/
theorem text_ne_empty : n.text ≠ "" := by
  intro hempty
  apply n.name_ne_empty
  rw [← n.trim_text, hempty]
  decide

/-- The piece has no comma, since the name has none and a blank is not one. -/
theorem comma_not_mem_text : ',' ∉ n.text.toList := by
  have hcomma : ¬ ',' ≤ ' ' := by decide
  intro hmem
  rw [text, String.toList_append, String.toList_append, List.mem_append, List.mem_append] at hmem
  rcases hmem with (hbefore | hname) | hafter
  · exact hcomma (n.blank_before _ hbefore)
  · exact n.comma_free hname
  · exact hcomma (n.blank_after _ hafter)

/-- A name as it stands in an option: a blank before it, a tab behind it. -/
def orders : PaddedName where
  before := " "
  name := "orders"
  after := "\t"
  blank_before := by simp
  blank_after := by simp [Char.le_def]
  name_ne_empty := by simp
  comma_free := by simp
  head_not_blank := by simp
  last_not_blank := by simp

/-- A name without blanks around it. -/
def audit : PaddedName where
  before := ""
  name := "audit"
  after := ""
  blank_before := by simp
  blank_after := by simp
  name_ne_empty := by simp
  comma_free := by simp
  head_not_blank := by simp
  last_not_blank := by simp

end PaddedName

/-- The comma-delimited text of the names. -/
def joinedText (names : List PaddedName) : String :=
  ",".intercalate (names.map PaddedName.text)

/-- **Decoding undoes joining.** -/
theorem commaDelimited_joinedText {names : List PaddedName} (hne : names ≠ [])
    (stored : Option (List String)) :
    commaDelimited (some (joinedText names)) stored = some (names.map PaddedName.name) := by
  have hmap : names.map PaddedName.text ≠ [] := by simpa using hne
  have hlast : (names.map PaddedName.text).getLast hmap ≠ "" := by
    rw [List.getLast_map]
    exact PaddedName.text_ne_empty _
  have hcomma : ∀ s ∈ names.map PaddedName.text, ',' ∉ s.toList := by
    intro s hs
    obtain ⟨n, -, rfl⟩ := List.mem_map.mp hs
    exact n.comma_not_mem_text
  have hsplit : split ',' (joinedText names) = names.map PaddedName.text :=
    split_intercalate hmap hcomma hlast
  have hempty : joinedText names ≠ "" := by
    -- an empty text would be its only piece
    intro hempty
    have hpieces : names.map PaddedName.text = [""] := by
      rw [← hsplit, hempty]
      decide
    apply hlast
    simp only [hpieces, List.getLast_singleton]
  show (if joinedText names ≠ "" then some ((split ',' (joinedText names)).map trim)
    else stored) = _
  rw [if_pos hempty, hsplit, List.map_map]
  congr 1
  apply List.map_congr_left
  intro n _
  exact n.trim_text

example : commaDelimited (some " orders\t,audit") none = some ["orders", "audit"] :=
  commaDelimited_joinedText (List.cons_ne_nil PaddedName.orders [.audit]) none

/-- The setter of an option stores the names that were joined, whatever was stored before,
and leaves the task alone if there is no text. -/
def StoresNames {τ : Type} (setter : Option String → τ → τ)
    (withNames : τ → List String → τ) : Prop :=
  (∀ (task : τ) (first : PaddedName) (rest : List PaddedName),
    setter (some (joinedText (first :: rest))) task =
      withNames task ((first :: rest).map PaddedName.name)) ∧
  ∀ task : τ, setter none task = task ∧ setter (some "") task = task

/-- **The comma-delimited options** decode every joined list.
SRC: aws/s3/DeleteS3BucketsTask.java:153-160, aws/s3/PurgeS3BucketsTask.java:134-141,
aws/sqs/PublishSqsTask.java:189-196, aws/sqs/PurgeSqsQueuesTask.java:110-117 -/
theorem options_store_joined_names :
    StoresNames DeleteS3BucketsTask.setBuckets
      (fun task names => { task with buckets := some names }) ∧
    StoresNames PurgeS3BucketsTask.setBuckets
      (fun task names => { task with buckets := some names }) ∧
    StoresNames PublishSqsTask.setQueueNames
      (fun task names => { task with queueNames := some names }) ∧
    StoresNames PurgeSqsQueuesTask.setQueueNames
      (fun task names => { task with queueNames := some names }) := by
  have hjoined : ∀ (first : PaddedName) (rest : List PaddedName) (stored : Option (List String)),
      commaDelimited (some (joinedText (first :: rest))) stored =
        some ((first :: rest).map PaddedName.name) :=
    fun first rest stored => commaDelimited_joinedText (List.cons_ne_nil first rest) stored
  refine ⟨⟨?_, fun _ => ⟨rfl, rfl⟩⟩, ⟨?_, fun _ => ⟨rfl, rfl⟩⟩, ⟨?_, fun _ => ⟨rfl, rfl⟩⟩,
    ⟨?_, fun _ => ⟨rfl, rfl⟩⟩⟩
  · intro task first rest
    rw [DeleteS3BucketsTask.setBuckets, hjoined]
  · intro task first rest
    rw [PurgeS3BucketsTask.setBuckets, hjoined]
  · intro task first rest
    rw [PublishSqsTask.setQueueNames, hjoined]
  · intro task first rest
    rw [PurgeSqsQueuesTask.setQueueNames, hjoined]

end GradleLocalstack.Analysis
