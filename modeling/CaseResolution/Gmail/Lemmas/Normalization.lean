import CaseResolution.Gmail.Lemmas.Body

/-!
This module contains when the steps of the normalisation of a message raise: which addresses, attachments,
times and fields are refused.
-/

namespace CaseResolution

namespace Gmail

open Unicode Guard

/--
The failure a normalisation may end with by its contract.
-/
def Failure.Declared (failure : Failure) : Prop :=
  ∃ message, failure = .inboxProviderUnavailable message

theorem areCharacters_map (text : List Char) : AreCharacters (text.map Char.toNat) := by
  intro code hmem
  obtain ⟨c, _, rfl⟩ := List.mem_map.mp hmem
  exact c.valid

section BoundedText

variable {least most : Nat} {value : Codes}

theorem boundedText_isOk : (∃ text, boundedText least most value = .ok text) ↔ Fits least most value := by
  unfold boundedText
  split
  . next h => simp [h]
  . next h => simp [h]

theorem avoids_boundedText : Avoids Failure.Declared (boundedText least most value) := by
  unfold boundedText
  split
  . exact trivial
  . rintro ⟨message, h⟩
    cases h

theorem optionally_isOk {α β : Type} {check : α → Except Failure β} {value : Option α}
    : (∃ checked, optionally check value = .ok checked)
      ↔ ∀ a, value = some a → ∃ b, check a = .ok b := by
  cases value with
  | none => simp [optionally, pure, Except.pure]
  | some a =>
    simp only [optionally, bind_isOk, pure_isOk, and_true, Option.some.injEq, forall_eq']

theorem avoids_optionally {α β : Type} {check : α → Except Failure β} {value : Option α}
    (h : ∀ a, Avoids Failure.Declared (check a)) : Avoids Failure.Declared (optionally check value) := by
  cases value with
  | none => exact avoids_pure none
  | some a => exact (h a).bind fun b => avoids_pure (some b)

end BoundedText

section Required

variable {payload : Members} {α β : Type} {f : α → Except Failure β}

/--
After a step that may fail as declared, only what follows its success counts.
-/
theorem answers_orThrow_bind {o : Option α} {e : Failure} (h : e.Declared)
    : Answers Failure.Declared (orThrow o e >>= f)
      ↔ ∀ a, o = some a → Answers Failure.Declared (f a) := by
  cases o with
  | none => exact iff_of_true h (by simp)
  | some a => simp [orThrow, bind, Except.bind]

theorem answers_requiredText_bind {key : String} {f : Codes → Except Failure β}
    : Answers Failure.Declared (requiredText payload key >>= f)
      ↔ ∀ text, textOf (get payload key) = some text → text ≠ [] → Answers Failure.Declared (f text) := by
  unfold requiredText
  cases htext : textOf (get payload key) with
  | none => exact iff_of_true ⟨_, rfl⟩ (by simp)
  | some text =>
    simp only
    split
    . next hempty =>
      refine iff_of_true ⟨_, rfl⟩ ?_
      rintro _ ⟨⟩ hne
      exact absurd hempty hne
    . next hne => simp [hne, bind, Except.bind]

end Required

theorem avoids_textKind {mimeType : Option Json} : Avoids Failure.Declared (textKind mimeType) := by
  unfold textKind
  split
  . rintro ⟨message, h⟩
    cases h
  . rintro ⟨message, h⟩
    cases h
  . exact trivial
  . exact trivial

/--
Why a body is not the whole one.
-/
def reasons : List String :=
  ["MIME structure exceeded the supported depth.", "Message body was truncated.",
    "Message body was unavailable."]

theorem reasons_fit : ∀ reason ∈ reasons, Fits 0 500 (codes reason) := by
  decide +kernel

theorem length_strip_le (text : List Char) : (PolicyParser.strip text).length ≤ text.length := by
  unfold PolicyParser.strip Lines.trim
  exact (List.rdropWhile_prefix _ _).length_le.trans (List.dropWhile_sublist _).length_le

section Texts

variable [TextLibrary] {levels : Nat} {payload : Members}

/--
The fields of an address take a pair of a name and an address.
-/
def PairFits (pair : Codes × Codes) : Prop :=
  Fits 3 320 (TextLibrary.casefold pair.2) ∧ (pair.1 ≠ [] → Fits 0 200 pair.1)

theorem messageAddress_isOk {pair : Codes × Codes}
    : (∃ address, messageAddress pair = .ok address) ↔ PairFits pair := by
  unfold messageAddress PairFits
  simp only [bind_isOk, pure_isOk, and_true, exists_and_right, boundedText_isOk, optionally_isOk]
  refine and_congr_right fun _ => ?_
  split
  . next hname => simp [hname]
  . next hname => simp [hname]

theorem avoids_messageAddress {pair : Codes × Codes}
    : Avoids Failure.Declared (messageAddress pair) := by
  unfold messageAddress
  apply avoids_boundedText.bind
  intro address
  apply (avoids_optionally fun _ => avoids_boundedText).bind
  intro name
  exact avoids_pure _

theorem addresses_isOk {value : Codes}
    : (∃ found, addresses value = .ok found) ↔ ∀ pair ∈ addressPairs value, PairFits pair := by
  unfold addresses
  simp only [mapM_isOk, messageAddress_isOk]

theorem avoids_addresses {value : Codes} : Avoids Failure.Declared (addresses value) :=
  avoids_mapM fun _ _ => avoids_messageAddress

theorem singleAddress_isOk {value : Codes}
    : (∃ sender, singleAddress value = .ok sender) ↔ ∀ pair ∈ addressPairs value, PairFits pair := by
  unfold singleAddress
  simp only [bind_isOk, pure_isOk, and_true, addresses_isOk]

theorem avoids_singleAddress {value : Codes} : Avoids Failure.Declared (singleAddress value) :=
  avoids_addresses.bind fun _ => avoids_pure _

theorem avoids_leafText {leaf : Leaf} : Avoids Failure.Declared (leafText leaf) := by
  unfold leafText
  apply Avoids.bind
  . unfold shownText
    split
    . exact avoids_pure _
    . apply (avoids_orThrow _).bind
      . intro pieces
        exact avoids_pure _
      . rintro ⟨message, h⟩
        cases h
  . intro text
    exact avoids_pure _

theorem avoids_bodyAt : Avoids Failure.Declared (bodyAt levels payload) := by
  induction levels generalizing payload with
  | zero => exact trivial
  | succ levels ih =>
    unfold bodyAt
    apply avoids_textKind.bind
    intro kind
    split
    . exact avoids_leafText
    . split
      . exact avoids_pure _
      . apply Avoids.bind
        . exact avoids_mapM fun part _ => ih.bind fun candidate => avoids_pure _
        . intro found
          exact avoids_pure _

theorem leafText_reason {leaf : Leaf} {found : Body} (h : leafText leaf = .ok found)
    : ∀ reason ∈ found.2, reason ∈ reasons := by
  unfold leafText at h
  simp only [bind_eq_ok, pure_eq_ok] at h
  obtain ⟨text, _, rfl⟩ := h
  split
  . simp [reasons]
  . simp

theorem bodyAt_reason {found : Body} (h : bodyAt levels payload = .ok found)
    : ∀ reason ∈ found.2, reason ∈ reasons := by
  induction levels generalizing payload found with
  | zero =>
    cases h
    simp [reasons]
  | succ levels ih =>
    cases hleaf : ownLeaf payload (mimeKind payload) with
    | some own => exact leafText_reason ((bodyAt_of_ownLeaf hleaf).mp h).2
    | none =>
      obtain ⟨_, hread, rfl⟩ := (bodyAt_of_parts hleaf).mp h
      rw [combine_eq]
      cases hpart : preferredPart (fun part => decide ((valueAt levels part).1 ≠ []))
          ((parts payload).getD []) with
      | none => simp [reasons]
      | some part =>
        obtain ⟨text, htext⟩ := hread part (preferredPart_mem hpart).1
        rw [Option.map_some, Option.getD_some, valueAt_of_ok htext]
        exact ih htext

/--
The text of a plain part is never longer than the bytes that are kept of it.
-/
theorem length_leafText {leaf : Leaf} {found : Body} (h : leafText leaf = .ok found)
    (hkind : leaf.kind = .plain) : found.1.length ≤ maxBodyBytes := by
  have hdecode : (decode leaf.encoded).1.length ≤ maxBodyBytes := by
    unfold decode
    simp only
    split
    . exact Nat.zero_le _
    . exact List.length_take_le _ _
  unfold leafText at h
  rw [hkind] at h
  simp only [shownText, bind_eq_ok, pure_eq_ok] at h
  obtain ⟨_, rfl, rfl⟩ := h
  exact (length_strip_le _).trans ((length_decodeReplacing _).trans hdecode)

end Texts

section Attachments

variable [ValueLibrary] {levels : Nat} {payload : Members}

/--
The fields of an attachment take what a part says about it.
-/
def AttachmentData.Fits (data : AttachmentData) : Prop :=
  ∃ mediaType, data.mediaType = some mediaType ∧ Gmail.Fits 1 500 data.attachmentId
    ∧ Gmail.Fits 1 500 (data.filename.take 500) ∧ Gmail.Fits 1 200 (mediaType.take 200)

theorem attachment_isOk {data : AttachmentData}
    : (∃ attachment, data.attachment = .ok attachment) ↔ data.Fits := by
  unfold AttachmentData.attachment AttachmentData.Fits
  simp only [bind_isOk, orThrow_eq_ok, pure_isOk, and_true, exists_and_right, boundedText_isOk]

theorem avoids_attachment {data : AttachmentData} : Avoids Failure.Declared data.attachment := by
  unfold AttachmentData.attachment
  apply Avoids.bind
  . apply avoids_orThrow
    rintro ⟨message, h⟩
    cases h
  . intro mediaType
    apply avoids_boundedText.bind
    intro id
    apply avoids_boundedText.bind
    intro name
    apply avoids_boundedText.bind
    intro media
    exact avoids_pure _

/--
All parts that are looked at for attachments.
-/
def partsAt : Nat → Members → List Members
  | 0, _ => []
  | levels + 1, payload => payload :: ((parts payload).getD []).flatMap (partsAt levels)

theorem attachmentsAt_isOk
    : (∃ found, attachmentsAt levels payload = .ok found)
      ↔ ∀ node ∈ partsAt levels payload, ∀ data, attachmentData node = some data → data.Fits := by
  induction levels generalizing payload with
  | zero => simp [attachmentsAt, partsAt]
  | succ levels ih =>
    simp only [attachmentsAt, partsAt, bind_isOk, pure_isOk, and_true, exists_and_right, mapM_isOk, ih,
      Option.mem_toList, attachment_isOk, List.forall_mem_cons, List.forall_mem_flatMap]

theorem avoids_attachmentsAt : Avoids Failure.Declared (attachmentsAt levels payload) := by
  induction levels generalizing payload with
  | zero => exact trivial
  | succ levels ih =>
    unfold attachmentsAt
    apply (avoids_mapM fun _ _ => avoids_attachment).bind
    intro own
    apply (avoids_mapM fun _ _ => ih).bind
    intro further
    exact avoids_pure _

end Attachments

section Record

variable [Sha256] {draft : Draft} {rawSource : Codes}

theorem record_isOk
    : (∃ message, draft.record rawSource = .ok message)
      ↔ Fits 1 500 draft.messageId ∧ Fits 1 500 draft.threadId
        ∧ (∀ text, draft.rfcMessageId = some text → Fits 0 1000 text) ∧ Fits 1 500 draft.subject
        ∧ Fits 1 100000 draft.body
        ∧ ∀ reason, draft.omissionReason = some reason → Fits 0 500 (codes reason) := by
  unfold Draft.record
  simp only [bind_isOk, pure_isOk, and_true, exists_and_right, boundedText_isOk, optionally_isOk]

theorem avoids_record : Avoids Failure.Declared (draft.record rawSource) := by
  unfold Draft.record
  apply avoids_boundedText.bind
  intro messageId
  apply avoids_boundedText.bind
  intro threadId
  apply (avoids_optionally fun _ => avoids_boundedText).bind
  intro rfcMessageId
  apply avoids_boundedText.bind
  intro subject
  apply avoids_boundedText.bind
  intro body
  apply (avoids_optionally fun _ => avoids_boundedText).bind
  intro omissionReason
  exact avoids_pure _

end Record

end Gmail

end CaseResolution
