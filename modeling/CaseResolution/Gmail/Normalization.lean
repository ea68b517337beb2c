import CaseResolution.Gmail.Body
import CaseResolution.Gmail.Lemmas.Normalization

/-!
This module contains for which messages the normalisation ends as declared: with a record, or with
`InboxProviderUnavailable`.
-/

namespace CaseResolution

namespace Gmail

open Unicode Guard

section Conditions

variable [TextLibrary]

/--
The ids, the subject and the text of a message fit their fields. Plain text always does.
-/
structure FieldsFit (payload messagePayload : Members) : Prop where
  id : ∀ text, textOf (get payload "id") = some text → Fits 1 500 text
  threadId : ∀ text, textOf (get payload "threadId") = some text → Fits 1 500 text
  rfcMessageId : ∀ text, header messagePayload "message-id" = some text → Fits 0 1000 text
  subject : AreCharacters (subjectOf messagePayload)
  html : ∀ leaf, takenAt (maxMimeDepth + 1) messagePayload = some leaf → leaf.kind = .html →
    ∀ text, leafText leaf = .ok text → text.1.length ≤ 100000

/--
The message has what is asked for before anything else: an id, a thread and a MIME payload.
-/
def IsComplete (payload messagePayload : Members) : Prop :=
  (∃ id, textOf (get payload "id") = some id ∧ id ≠ [])
    ∧ (∃ threadId, textOf (get payload "threadId") = some threadId ∧ threadId ≠ [])
    ∧ getObject payload "payload" = some messagePayload

/--
Addresses, text and attachments are within bounds, and, where the message has a date of digits, so are this
date, the document it came in and the fields of the record.
-/
structure Benign [ValueLibrary] (payload messagePayload : Members) : Prop where
  sender : ∀ pair ∈ addressPairs ((header messagePayload "from").getD []), PairFits pair
  recipients : ∀ pair ∈ addressPairs ((header messagePayload "to").getD []), PairFits pair
  reads : ReadsAt (maxMimeDepth + 1) messagePayload
  attachments : ∀ part ∈ partsAt (maxMimeDepth + 1) messagePayload, ∀ data,
    attachmentData part = some data → data.Fits
  dated : ∀ date, textOf (get payload "internalDate") = some date → TextLibrary.isdigit date = true →
    (∃ milliseconds, TextLibrary.int date = some milliseconds
      ∧ TextLibrary.fromtimestamp milliseconds ≠ none)
    ∧ ValueLibrary.dumps payload ≠ none ∧ FieldsFit payload messagePayload

end Conditions

section Steps

variable [TextLibrary] {payload messagePayload : Members} {β : Type} {f : CivilTime → Except Failure β}

theorem answers_receivedAt_bind
    : Answers Failure.Declared (receivedAt payload >>= f) ↔ ∀ date,
      textOf (get payload "internalDate") = some date → TextLibrary.isdigit date = true →
        ∃ milliseconds, TextLibrary.int date = some milliseconds ∧ ∃ time,
          TextLibrary.fromtimestamp milliseconds = some time ∧ Answers Failure.Declared (f time) := by
  have hvalue : ¬ Failure.valueError.Declared := by
    rintro ⟨message, h⟩
    cases h
  unfold receivedAt
  cases hdate : textOf (get payload "internalDate") with
  | none => exact iff_of_true ⟨_, rfl⟩ (by simp)
  | some date =>
    simp only [Option.some.injEq, forall_eq']
    split
    . next hdigits =>
      simp only [hdigits, forall_const, bind_assoc]
      rw [answers_bind (avoids_orThrow hvalue)]
      simp only [orThrow_eq_ok, answers_bind (avoids_orThrow hvalue)]
    . next hdigits => exact iff_of_true ⟨_, rfl⟩ (fun h => absurd h hdigits)

theorem subjectOf_length : 1 ≤ (subjectOf messagePayload).length ∧ (subjectOf messagePayload).length ≤ 500 := by
  unfold subjectOf
  split
  . decide +kernel
  . next subject _ =>
    refine ⟨?_, List.length_take_le _ _⟩
    rw [List.length_take]
    split
    . decide +kernel
    . next hne =>
      have hpos := List.length_pos_iff.mpr hne
      omega

/--
What is put into the field for the body: the text that is found, or a text in its place.
-/
def filled (found : Body) : Codes :=
  if found.1 = [] then placeholder else found.1.map Char.toNat

theorem filled_fits {found : Body} (h : body messagePayload = .ok found)
    : Fits 1 100000 (filled found) ↔ ∀ leaf, takenAt (maxMimeDepth + 1) messagePayload = some leaf →
      leaf.kind = .html → ∀ text, leafText leaf = .ok text → text.1.length ≤ 100000 := by
  obtain ⟨hsome, htaken⟩ := bodyAt_takenAt h
  have hread : ∀ leaf, takenAt (maxMimeDepth + 1) messagePayload = some leaf → ∀ text,
      leafText leaf = .ok text → text = found := by
    intro leaf hleaf text htext
    rw [htaken leaf hleaf] at htext
    exact (Except.ok.inj htext).symm
  unfold filled
  split
  . next hempty =>
    refine iff_of_true (by decide +kernel) ?_
    intro leaf hleaf _ text htext
    rw [hread leaf hleaf text htext, hempty]
    exact Nat.zero_le _
  . next hne =>
    have hpos := List.length_pos_iff.mpr hne
    have hfits : Fits 1 100000 (found.1.map Char.toNat) ↔ found.1.length ≤ 100000 := by
      unfold Fits
      rw [List.length_map]
      exact ⟨fun h => h.2.2, fun h => ⟨areCharacters_map _, hpos, h⟩⟩
    rw [hfits]
    constructor
    . intro hlength leaf hleaf _ text htext
      rw [hread leaf hleaf text htext]
      exact hlength
    . intro hhtml
      rw [decide_eq_true hne] at hsome
      obtain ⟨leaf, hleaf⟩ := Option.isSome_iff_exists.mp hsome
      cases hkind : leaf.kind with
      | plain => exact length_leafText (htaken leaf hleaf) hkind
      | html => exact hhtml leaf hleaf hkind found (htaken leaf hleaf)

/--
What is left to pass once a message is complete.
-/
theorem normalizeMessage_answers [ValueLibrary] [Sha256] {accountAddress : Codes}
    : Answers Failure.Declared (normalizeMessage payload accountAddress) ↔
      ∀ id, textOf (get payload "id") = some id → id ≠ [] →
      ∀ threadId, textOf (get payload "threadId") = some threadId → threadId ≠ [] →
      ∀ messagePayload, getObject payload "payload" = some messagePayload →
      ∃ sender, singleAddress ((header messagePayload "from").getD []) = .ok sender ∧
      ∃ recipients, addresses ((header messagePayload "to").getD []) = .ok recipients ∧
      ∃ found, body messagePayload = .ok found ∧
      ∃ attached, attachments messagePayload = .ok attached ∧
      ∀ date, textOf (get payload "internalDate") = some date → TextLibrary.isdigit date = true →
      ∃ milliseconds, TextLibrary.int date = some milliseconds ∧
      ∃ time, TextLibrary.fromtimestamp milliseconds = some time ∧
      ∃ rawSource, ValueLibrary.dumps payload = some rawSource ∧
        Fits 1 500 id ∧ Fits 1 500 threadId
        ∧ (∀ text, header messagePayload "message-id" = some text → Fits 0 1000 text)
        ∧ Fits 1 500 (subjectOf messagePayload) ∧ Fits 1 100000 (filled found)
        ∧ ∀ reason, found.2 = some reason → Fits 0 500 (codes reason) := by
  have hrecursion : ¬ Failure.recursionError.Declared := by
    rintro ⟨message, h⟩
    cases h
  have hpayload : (Failure.inboxProviderUnavailable "The inbox message has no MIME payload.").Declared :=
    ⟨_, rfl⟩
  unfold normalizeMessage body attachments
  simp only [answers_requiredText_bind, answers_orThrow_bind hpayload, answers_bind avoids_singleAddress,
    answers_bind avoids_addresses, answers_bind avoids_bodyAt, answers_bind avoids_attachmentsAt,
    answers_receivedAt_bind, answers_bind (avoids_orThrow hrecursion), orThrow_eq_ok,
    answers_of_avoids avoids_record, record_isOk, filled]

end Steps

end Gmail

open Gmail Guard

namespace Sample

open Unicode

/--
Texts are written as they are. What a document is written as is only hashed.
-/
@[reducible]
def plainValues : ValueLibrary where
  dumps := fun _ => some []
  str := fun value => textOf (some value)
  isNonzero := fun literal => literal.any fun code => 49 ≤ code ∧ code ≤ 57

def zeroDigest : HexDigest where
  text := String.ofList (List.replicate 64 '0')
  pattern := by
    rw [String.length_ofList, List.length_replicate, String.toList_ofList]
    refine ⟨rfl, fun c hmem => ?_⟩
    rw [List.eq_of_mem_replicate hmem]
    decide

@[reducible]
def zeroSha256 : Sha256 where
  hexdigest := fun _ => zeroDigest

/--
A message with an attachment whose id is empty.
-/
def emptyAttachmentId : Members :=
  [(codes "id", .str (codes "m1")), (codes "threadId", .str (codes "t1")),
    (codes "internalDate", .str (codes "1000")),
    (codes "payload", .object [(codes "mimeType", .str (codes "image/png")),
      (codes "filename", .str (codes "a.png")),
      (codes "body", .object [(codes "attachmentId", .str []), (codes "size", .number (codes "3"))])])]

attribute [local instance] simpleTexts plainValues zeroSha256

theorem emptyAttachmentId_refused
    : normalizeMessage emptyAttachmentId (codes "me@shop.test") = .error .validationError
      ∧ ¬ Answers Failure.Declared (normalizeMessage emptyAttachmentId (codes "me@shop.test")) := by
  have hrefused : normalizeMessage emptyAttachmentId (codes "me@shop.test") = .error .validationError := by
    decide +kernel
  refine ⟨hrefused, ?_⟩
  rw [hrefused]
  rintro ⟨message, h⟩
  cases h

end Sample

end CaseResolution
