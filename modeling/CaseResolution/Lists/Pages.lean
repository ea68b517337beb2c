import CaseResolution.Cases.Queue
import CaseResolution.Lists.Formats
import CaseResolution.Lists.Impl.Queries
import CaseResolution.Lists.Lemmas.History
import CaseResolution.Lists.Lemmas.Keyset

/-!
This module contains what a reader of the paged lists sees: whoever follows the cursors of a conversation, an
activity, the actions or the reviews until there is none is shown every row once, in the order of the list.
-/

namespace CaseResolution

open Guard Keyset

/--
Every row is shown once, and the rows shown follow the order of the list.
-/
structure Enumerates {Row : Type} (before : Row → Row → Prop) (rows shown : List Row) : Prop where
  each_once : shown.Perm rows
  ordered : shown.Pairwise before

/--
A walk is answered up to a page without a cursor, its pages show every row, and each of them counts the rows.
-/
def PagesEnumerate {ε ρ κ π Row : Type} (p : Pager ε ρ κ π Row) (requests : List ρ)
    (before : Row → Row → Prop) (rows : List Row) (arrange : List π → List Row) (total : π → Nat) : Prop :=
  ∃ pages, p.walk requests none = .ok pages
    ∧ Enumerates before rows (arrange pages)
    ∧ (∃ last, pages.getLast? = some last ∧ p.next last = none)
    ∧ ∀ page ∈ pages, total page = rows.length

namespace KeysetList

variable {Row Tie ρ : Type} [LinearOrder Tie]

/--
Later rows come first, and rows of one time in the order of their ids.
-/
def Precedes (l : KeysetList Row Tie) (a b : Row) : Prop :=
  l.time b < l.time a ∨ (l.time a = l.time b ∧ l.tie (l.publicId a) < l.tie (l.publicId b))

theorem precedes_iff {l : KeysetList Row Tie} {a b : Row} : l.Precedes a b ↔ l.key a < l.key b := by
  unfold Precedes key
  rw [Prod.Lex.toLex_lt_toLex, OrderDual.toDual_lt_toDual, OrderDual.toDual_inj]

variable [IsoFormat] [Interpreter]

theorem pages_enumerate {l : KeysetList Row Tie} {rows : List Row} {filterFingerprint : String}
    {requests : List ρ} {p : Pager ListFailure ρ String (KeysetPage Row) Row} {R : ρ → Prop}
    (hids : (rows.map l.publicId).Nodup) (htie : Function.Injective l.tie)
    (hitems : p.items = KeysetPage.items) (hnext : p.next = KeysetPage.nextCursor)
    (hserve : ∀ cursor r, R r → p.serve cursor r = l.page rows filterFingerprint cursor (p.size r))
    (hrequests : ∀ r ∈ requests, R r ∧ 1 ≤ p.size r) (hne : requests ≠ [])
    (hlength : rows.length ≤ requests.length)
    : PagesEnumerate p requests l.Precedes rows (fun pages => pages.flatMap KeysetPage.items)
        KeysetPage.total := by
  have hkeys := keys_nodup hids htie
  have hserves := serves (R := fun r => R r ∧ 1 ≤ p.size r) hkeys hitems hnext (fun _ hr => hr.2)
    fun cursor r hr => hserve cursor r hr.1
  rw [← length_ordered (l := l)] at hlength
  obtain ⟨pages, hwalk, hflat, hlast, htotal⟩ :=
    hserves.walk_exact (fun r hr => ⟨hrequests r hr, (hrequests r hr).2⟩) hne hlength
  rw [hitems] at hflat
  refine ⟨pages, hwalk, ⟨?_, ?_⟩, hlast, htotal⟩
  . change (pages.flatMap KeysetPage.items).Perm rows
    rw [hflat]
    exact ordered_perm
  . change (pages.flatMap KeysetPage.items).Pairwise l.Precedes
    rw [hflat, ordered_eq]
    exact (ascending_increasing hkeys).imp fun hlt => precedes_iff.mpr hlt

end KeysetList

/--
Earlier messages come first, and messages of one time in the order of their ids.
-/
def ConversationMessage.Precedes [TextCollation] (a b : ConversationMessage) : Prop :=
  a.createdAt < b.createdAt
    ∨ (a.createdAt = b.createdAt ∧ TextCollation.sortKey a.publicId < TextCollation.sortKey b.publicId)

def CaseActivity.Precedes (a b : CaseActivity) : Prop :=
  a.occurredAt < b.occurredAt ∨ (a.occurredAt = b.occurredAt ∧ a.id.value < b.id.value)

namespace CaseHistoryService

variable [HistoryPayloadJson] [UuidText] {Row Item Tie : Type} [LinearOrder Tie]

/--
The pages of a section in the reverse order, which is that of the entries.
-/
theorem section_enumerates {kind : CaseHistoryKind} {l : HistoryList Row Tie} {rows : List Row}
    {list : String → Option CaseHistoryPosition → Nat → Except Error (HistoryRecords Item)}
    {actor : ActorContext} {caseId : String} {limits : List PageLimit} {item : Row → Item}
    {before : Item → Item → Prop} (hkeys : (rows.map l.key).Nodup)
    (hlists : ∃ positions, ListsHistory kind (list caseId) ((l.backward rows).map item) positions)
    (hbefore : ∀ a b, l.key a < l.key b → before (item b) (item a))
    (hactor : actor.can .caseRead = true) (hcase : 1 ≤ caseId.length ∧ caseId.length ≤ 64)
    (hne : limits ≠ []) (hlength : rows.length ≤ limits.length)
    : PagesEnumerate (historyPager (historySection kind list actor caseId)) limits before (rows.map item)
        (fun pages => pages.reverse.flatMap Page.items) Page.total := by
  obtain ⟨positions, hlists⟩ := hlists
  have hentries : ((l.backward rows).map item).length = rows.length := by
    rw [List.length_map, HistoryList.length_backward]
  obtain ⟨pages, hwalk, hflat, hlast, htotal⟩ :=
    (historySection_serves hlists hactor hcase).walk_exact (fun limit _ => ⟨trivial, limit.pos⟩) hne
      (by omega)
  have hshown : pages.reverse.flatMap Page.items = ((l.backward rows).map item).reverse := by
    rw [← hflat, List.reverse_flatMap]
    congr 1
    funext page
    exact (List.reverse_reverse page.items).symm
  refine ⟨pages, hwalk, ⟨?_, ?_⟩, hlast, fun page hmem => ?_⟩
  . change (pages.reverse.flatMap Page.items).Perm (rows.map item)
    rw [hshown]
    exact (List.reverse_perm _).trans ((List.perm_insertionSort _ rows).map item)
  . change (pages.reverse.flatMap Page.items).Pairwise before
    rw [hshown, List.pairwise_reverse, List.pairwise_map, HistoryList.backward_eq]
    exact (ascending_increasing hkeys).imp fun hlt => hbefore _ _ hlt
  . rw [htotal page hmem, hentries, List.length_map]

end CaseHistoryService

section Histories

open CaseHistoryService

variable [HistoryPayloadJson] [UuidText] (t : CaseHistoryTable) (caseId : String)

theorem conversation_enumerates [TextCollation] {actor : ActorContext} {limits : List PageLimit}
    (hactor : actor.can .caseRead = true) (hcase : caseId ∈ t.cases) (hne : limits ≠ [])
    (hlength : (t.caseMessages caseId).length ≤ limits.length)
    : PagesEnumerate (historyPager (conversation t actor caseId)) limits ConversationMessage.Precedes
        (t.caseMessages caseId) (fun pages => pages.reverse.flatMap Page.items) Page.total := by
  have hlist : ∀ before limit, t.listConversationMessages caseId before limit
      = (CaseHistoryTable.conversation.page (t.caseMessages caseId) before limit).map fun records =>
        { items := records.items.map id, total := records.total, nextPosition := records.nextPosition } := by
    intro before limit
    unfold CaseHistoryTable.listConversationMessages CaseHistoryTable.requiredCase
    rw [ensure_of hcase]
    simp only [List.map_id]
    change t.conversationPage caseId before limit = _
    unfold CaseHistoryTable.conversationPage
    cases CaseHistoryTable.conversation.page (t.caseMessages caseId) before limit <;> rfl
  have hlists := listsHistory .conversation (t.listConversationMessages caseId)
    CaseHistoryTable.conversation_positions (t.conversation_keys caseId) id hlist (fun hkind => by cases hkind)
  rw [← List.map_id (t.caseMessages caseId)]
  refine section_enumerates (t.conversation_keys caseId) ⟨_, hlists⟩ ?_ hactor
    (t.cases_length caseId hcase) hne hlength
  intro a b hlt
  exact HistoryList.older_of_key hlt

theorem activity_enumerates {actor : ActorContext} {limits : List PageLimit}
    (hactor : actor.can .caseRead = true) (hcase : caseId ∈ t.cases) (hne : limits ≠ [])
    (hlength : (t.caseEvents caseId).length ≤ limits.length)
    : PagesEnumerate (historyPager (activity t actor caseId)) limits CaseActivity.Precedes
        ((t.caseEvents caseId).map AuditEvent.activity) (fun pages => pages.reverse.flatMap Page.items)
        Page.total := by
  have hlist : ∀ before limit, t.listCaseActivity caseId before limit
      = (CaseHistoryTable.activity.page (t.caseEvents caseId) before limit).map fun records =>
        { items := records.items.map AuditEvent.activity
          total := records.total
          nextPosition := records.nextPosition } := by
    intro before limit
    unfold CaseHistoryTable.listCaseActivity CaseHistoryTable.requiredCase
    rw [ensure_of hcase]
    change t.activityPage caseId before limit = _
    unfold CaseHistoryTable.activityPage
    cases CaseHistoryTable.activity.page (t.caseEvents caseId) before limit <;> rfl
  have hlists := listsHistory .activity (t.listCaseActivity caseId) CaseHistoryTable.activity_positions
    (t.activity_keys caseId) AuditEvent.activity hlist fun _ event => by
      rw [CaseHistoryTable.activity_tieBreaker_read]
      simp
  refine section_enumerates (t.activity_keys caseId) ⟨_, hlists⟩ ?_ hactor
    (t.cases_length caseId hcase) hne hlength
  intro a b hlt
  exact HistoryList.older_of_key hlt

omit [HistoryPayloadJson] in
/--
The windows of a workspace count the entries it shows and all there are.
-/
theorem workspaceHistory_counts [TextCollation]
    : ∃ shown, t.workspaceHistory caseId = .ok shown
      ∧ shown.messageWindow.returned = shown.messages.length
      ∧ shown.messageWindow.total = (t.caseMessages caseId).length
      ∧ shown.activityWindow.returned = shown.activity.length
      ∧ shown.activityWindow.total = (t.caseEvents caseId).length := by
  have hmessages := HistoryList.page_at CaseHistoryTable.conversation_positions (t.conversation_keys caseId)
    (.inl rfl) (show 1 ≤ CaseHistoryTable.caseWorkspaceMessageLimit by decide)
  have hevents := HistoryList.page_at CaseHistoryTable.activity_positions (t.activity_keys caseId)
    (.inl rfl) (show 1 ≤ CaseHistoryTable.caseWorkspaceActivityLimit by decide)
  obtain ⟨messageWindow, hmessageWindow, hreturned, htotal⟩ :=
    CaseHistoryTable.conversation_positions.window_of (t.caseMessages caseId)
      (show 1 ≤ CaseHistoryTable.caseWorkspaceMessageLimit by decide)
  obtain ⟨activityWindow, hactivityWindow, hreturned', htotal'⟩ :=
    CaseHistoryTable.activity_positions.window_of (t.caseEvents caseId)
      (show 1 ≤ CaseHistoryTable.caseWorkspaceActivityLimit by decide)
  let events := (CaseHistoryTable.activity_positions.pageAt (t.caseEvents caseId) 0
    CaseHistoryTable.caseWorkspaceActivityLimit).items
  refine ⟨{ messages := _, activity := events.map AuditEvent.activity, messageWindow, activityWindow }, ?_,
    hreturned, htotal, ?_, htotal'⟩
  . unfold CaseHistoryTable.workspaceHistory CaseHistoryTable.conversationPage
      CaseHistoryTable.activityPage
    simp only [bind_eq_ok, pure_eq_ok]
    exact ⟨_, hmessages, _, ⟨_, hevents, rfl⟩, _, hmessageWindow, _, by
      rw [List.length_map]
      exact hactivityWindow, rfl⟩
  . rw [List.length_map]
    exact hreturned'

end Histories

/--
No running attempt is so old when the request arrives that it counts as abandoned.
-/
def ActionTable.Settled (t : ActionTable) (request : ListRequest) : Prop :=
  ∃ cutoff, request.now.toUtc ActionTable.abandonedActionTime = some cutoff
    ∧ ∀ row ∈ t.rows, ∀ startedAt ∈ row.runningSince, cutoff < startedAt

/--
No reservation has expired when the request arrives.
-/
def ReviewTable.Settled (t : ReviewTable) (request : ListRequest) : Prop :=
  ∀ row ∈ t.rows, ∀ expiresAt ∈ row.reservedUntil, request.now < expiresAt

theorem ActionTable.reconcileAbandoned_of_settled {t : ActionTable} {now cutoff : CivilTime}
    (h : ∀ row ∈ t.rows, ∀ startedAt ∈ row.runningSince, cutoff < startedAt)
    : t.reconcileAbandoned now cutoff = t := by
  have hrows : t.rows.map (abandon now cutoff) = t.rows := by
    rw [List.map_congr_left (g := id), List.map_id]
    intro row hrow
    unfold abandon
    rw [if_neg]
    . rfl
    . simpa using h row hrow
  obtain ⟨organization, rows, hnodup⟩ := t
  unfold reconcileAbandoned
  congr

theorem ReviewTable.reconcileExpired_of_settled {t : ReviewTable} {request : ListRequest}
    (h : t.Settled request) : t.reconcileExpired request.now = t := by
  have hrows : t.rows.map (expire request.now) = t.rows := by
    rw [List.map_congr_left (g := id), List.map_id]
    intro row hrow
    unfold expire
    rw [if_neg]
    . rfl
    . simpa using h row hrow
  obtain ⟨organization, rows, hnodup⟩ := t
  unfold reconcileExpired
  congr

section Queries

variable [TextCollation] [LowerCase] [Digest] [IsoFormat] [Interpreter]

def ActionTable.pager (t : ActionTable) (filters : ActionFilters)
    : Pager ListFailure ListRequest String (KeysetPage ActionRow) ActionRow where
  serve cursor request := (t.listActions filters cursor request).map Prod.snd
  size request := request.limit.value
  items := KeysetPage.items
  next := KeysetPage.nextCursor

def ReviewTable.pager (t : ReviewTable) (filters : ReviewFilters)
    : Pager ListFailure ListRequest String (KeysetPage ReviewRow) ReviewRow where
  serve cursor request := (t.listReviews filters cursor request).map Prod.snd
  size request := request.limit.value
  items := KeysetPage.items
  next := KeysetPage.nextCursor

theorem actions_enumerate (t : ActionTable) {filters : ActionFilters} {requests : List ListRequest}
    (hsettled : ∀ request ∈ requests, t.Settled request) (hne : requests ≠ [])
    (hlength : (t.rows.filter (ActionTable.selects filters)).length ≤ requests.length)
    : PagesEnumerate (t.pager filters) requests ActionTable.list.Precedes
        (t.rows.filter (ActionTable.selects filters)) (fun pages => pages.flatMap KeysetPage.items)
        KeysetPage.total := by
  have hserve : ∀ cursor request, t.Settled request → (t.pager filters).serve cursor request
      = ActionTable.list.page (t.rows.filter (ActionTable.selects filters)) (t.filterFingerprint filters)
          cursor request.limit.value := by
    rintro cursor request ⟨cutoff, hcutoff, hrunning⟩
    change (t.listActions filters cursor request).map Prod.snd = _
    unfold ActionTable.listActions
    rw [hcutoff]
    change ((ActionTable.list.page ((t.reconcileAbandoned request.now cutoff).rows.filter _) _ cursor _)
      >>= _).map Prod.snd = _
    rw [ActionTable.reconcileAbandoned_of_settled hrunning]
    cases ActionTable.list.page (t.rows.filter (ActionTable.selects filters))
      (t.filterFingerprint filters) cursor request.limit.value <;> rfl
  exact KeysetList.pages_enumerate (t.publicIds_nodup.sublist (List.filter_sublist.map _))
    TextCollation.sortKey_injective rfl rfl hserve
    (fun request hmem => ⟨hsettled request hmem, request.limit.pos⟩) hne hlength

theorem reviews_enumerate (t : ReviewTable) {filters : ReviewFilters} {requests : List ListRequest}
    (hsettled : ∀ request ∈ requests, t.Settled request) (hne : requests ≠ [])
    (hlength : (t.rows.filter (ReviewTable.selects filters)).length ≤ requests.length)
    : PagesEnumerate (t.pager filters) requests ReviewTable.list.Precedes
        (t.rows.filter (ReviewTable.selects filters)) (fun pages => pages.flatMap KeysetPage.items)
        KeysetPage.total := by
  have hserve : ∀ cursor request, t.Settled request → (t.pager filters).serve cursor request
      = ReviewTable.list.page (t.rows.filter (ReviewTable.selects filters)) (t.filterFingerprint filters)
          cursor request.limit.value := by
    intro cursor request hunexpired
    change (t.listReviews filters cursor request).map Prod.snd = _
    unfold ReviewTable.listReviews
    dsimp only
    rw [ReviewTable.reconcileExpired_of_settled hunexpired]
    cases ReviewTable.list.page (t.rows.filter (ReviewTable.selects filters))
      (t.filterFingerprint filters) cursor request.limit.value <;> rfl
  exact KeysetList.pages_enumerate (t.publicIds_nodup.sublist (List.filter_sublist.map _))
    TextCollation.sortKey_injective rfl rfl hserve
    (fun request hmem => ⟨hsettled request hmem, request.limit.pos⟩) hne hlength

def ConnectionTable.pager (t : ConnectionTable) (filters : ConnectionFilters)
    : Pager ListFailure PageLimit String (KeysetPage ConnectionRow) ConnectionRow where
  serve := t.listConnections filters
  size := PageLimit.value
  items := KeysetPage.items
  next := KeysetPage.nextCursor

/--
The list of connections writes nothing before it reads, so its pages need no condition on the rows.
-/
theorem connections_enumerate (t : ConnectionTable) {filters : ConnectionFilters}
    {limits : List PageLimit} (hne : limits ≠ [])
    (hlength : (t.rows.filter (ConnectionTable.selects filters)).length ≤ limits.length)
    : PagesEnumerate (t.pager filters) limits ConnectionTable.list.Precedes
        (t.rows.filter (ConnectionTable.selects filters)) (fun pages => pages.flatMap KeysetPage.items)
        KeysetPage.total := by
  have hserve : ∀ cursor limit, True → (t.pager filters).serve cursor limit
      = ConnectionTable.list.page (t.rows.filter (ConnectionTable.selects filters))
          (t.filterFingerprint filters) cursor limit.value := fun _ _ _ => rfl
  exact KeysetList.pages_enumerate (t.publicIds_nodup.sublist (List.filter_sublist.map _))
    TextCollation.sortKey_injective rfl rfl hserve (fun limit _ => ⟨trivial, limit.pos⟩) hne hlength

end Queries

/--
Whoever follows the cursors of a conversation, an activity, an action list or a review list, with pages of
any sizes, is shown every row once: the histories back from the newest page, each page in the order of time,
and the lists in their order. Every page counts the rows, and so do the windows of a workspace.
-/
theorem history_pages_exact [TextCollation] [LowerCase] [Digest] [IsoFormat] [Interpreter]
    [HistoryPayloadJson] [UuidText]
    : (∀ (t : CaseHistoryTable) (actor : ActorContext) (caseId : String) (limits : List PageLimit),
        actor.can .caseRead = true → caseId ∈ t.cases → limits ≠ [] →
        ((t.caseMessages caseId).length ≤ limits.length →
          PagesEnumerate (CaseHistoryService.historyPager (CaseHistoryService.conversation t actor caseId))
            limits ConversationMessage.Precedes (t.caseMessages caseId)
            (fun pages => pages.reverse.flatMap CaseHistoryService.Page.items)
            CaseHistoryService.Page.total)
        ∧ ((t.caseEvents caseId).length ≤ limits.length →
          PagesEnumerate (CaseHistoryService.historyPager (CaseHistoryService.activity t actor caseId))
            limits CaseActivity.Precedes ((t.caseEvents caseId).map AuditEvent.activity)
            (fun pages => pages.reverse.flatMap CaseHistoryService.Page.items)
            CaseHistoryService.Page.total)
        ∧ ∃ shown, t.workspaceHistory caseId = .ok shown
          ∧ shown.messageWindow.returned = shown.messages.length
          ∧ shown.messageWindow.total = (t.caseMessages caseId).length
          ∧ shown.activityWindow.returned = shown.activity.length
          ∧ shown.activityWindow.total = (t.caseEvents caseId).length)
      ∧ (∀ (t : ActionTable) (filters : ActionFilters) (requests : List ListRequest),
        (∀ request ∈ requests, t.Settled request) → requests ≠ [] →
        (t.rows.filter (ActionTable.selects filters)).length ≤ requests.length →
        PagesEnumerate (t.pager filters) requests ActionTable.list.Precedes
          (t.rows.filter (ActionTable.selects filters)) (fun pages => pages.flatMap KeysetPage.items)
          KeysetPage.total)
      ∧ (∀ (t : ReviewTable) (filters : ReviewFilters) (requests : List ListRequest),
        (∀ request ∈ requests, t.Settled request) → requests ≠ [] →
        (t.rows.filter (ReviewTable.selects filters)).length ≤ requests.length →
        PagesEnumerate (t.pager filters) requests ReviewTable.list.Precedes
          (t.rows.filter (ReviewTable.selects filters)) (fun pages => pages.flatMap KeysetPage.items)
          KeysetPage.total) := by
  refine ⟨?_, ?_, ?_⟩
  . intro t actor caseId limits hactor hcase hne
    refine ⟨?_, ?_, workspaceHistory_counts t caseId⟩
    . exact conversation_enumerates t caseId hactor hcase hne
    . exact activity_enumerates t caseId hactor hcase hne
  . intro t filters requests hsettled hne hlength
    exact actions_enumerate t hsettled hne hlength
  . intro t filters requests hsettled hne hlength
    exact reviews_enumerate t hsettled hne hlength

namespace Sample

attribute [local instance] Digest.checksum codepoints interpreter extendedFormat hexadecimalUuid jsonPayload

@[reducible]
def asciiLower : LowerCase where
  lower := String.toLower

attribute [local instance] asciiLower

def historyMessage (publicId : String) (h : 1 ≤ publicId.length ∧ publicId.length ≤ 64)
    : ConversationMessage where
  casePublicId := "CASE-1"
  publicId := publicId
  authorName := "Customer"
  body := "Where is my refund?"
  createdAt := noon
  publicId_length := h

/--
Three messages that arrived together, and an event without a summary.
-/
def threeMessages : CaseHistoryTable where
  cases := ["CASE-1"]
  cases_length := by decide
  messages := [historyMessage "MSG-2" (by decide), historyMessage "MSG-3" (by decide),
    historyMessage "MSG-1" (by decide)]
  events := [{
    id := { value := 7, lt := by decide }
    eventType := "case.created"
    actorId := none
    subjectType := some "case"
    subjectId := some "CASE-1"
    summary := none
    occurredAt := noon }]
  messages_nodup := by decide
  events_nodup := by decide

def actionRow (publicId : String) : ActionRow where
  publicId := publicId
  label := "Refund"
  type := "refund"
  target := "order"
  casePublicId := "CASE-1"
  connectionName := "Shop"
  status := .running
  version := 1
  updatedAt := noon
  runningSince := [noon]

def twoActions : ActionTable where
  organization := "ORG-1"
  rows := [actionRow "ACT-2", actionRow "ACT-1"]
  publicIds_nodup := by decide

def unfiltered : ActionFilters where
  status := none
  recoveryRequired := none
  query := none

theorem twoActions_settled : twoActions.Settled { now := noon, limit := oneCase } := by
  refine ⟨{ noon with ticks := 44700000000, ticks_lt := by decide }, by decide +kernel, ?_⟩
  decide +kernel

theorem history_pages_exact_ties
    : PagesEnumerate (CaseHistoryService.historyPager
        (CaseHistoryService.conversation threeMessages reader "CASE-1")) [twoCases, oneCase, oneCase]
        ConversationMessage.Precedes (threeMessages.caseMessages "CASE-1")
        (fun pages => pages.reverse.flatMap CaseHistoryService.Page.items) CaseHistoryService.Page.total
      ∧ PagesEnumerate (twoActions.pager unfiltered)
        [{ now := noon, limit := oneCase }, { now := noon, limit := oneCase }] ActionTable.list.Precedes
        (twoActions.rows.filter (ActionTable.selects unfiltered))
        (fun pages => pages.flatMap KeysetPage.items) KeysetPage.total := by
  constructor
  . exact (history_pages_exact.1 threeMessages reader "CASE-1" [twoCases, oneCase, oneCase] rfl
      (by decide) (by decide)).1 (by decide)
  . apply history_pages_exact.2.1 twoActions unfiltered _ _ (by decide)
    . decide +kernel
    . intro request hmem
      simp only [List.mem_cons, List.not_mem_nil, or_false, or_self] at hmem
      rw [hmem]
      exact twoActions_settled

end Sample

end CaseResolution
