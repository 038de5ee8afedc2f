import Xyena.Contracts.Tools
import Xyena.Foundation.Columns
import Xyena.Foundation.OrderBy
import Xyena.Foundation.RowWrite
import Xyena.Foundation.Runs

/-!
# Agent sessions

`PostgresAgentSession` of `packages/memory/session.py`. The items of all
conversations are rows of one table. The sequence of a row is counted in its
session, while a conversation is read on its own, so the conversations of a
session share one counter. Every call is one transaction, and the calls that add
items to one session wait for each other. The column of an item is JSONB, which
does not take every item.
-/

namespace Xyena.Memory

open Xyena.Foundation Xyena.Contracts

/-! ## Rows -/

structure SessionItem where
  id : Uuid
  tenantId : Uuid
  sessionId : Uuid
  conversationId : Uuid
  sequence : Int
  item : Dict

/-- A `PostgresAgentSession`: the scope that all of its queries select. -/
structure AgentSession where
  tenantId : Uuid
  sessionId : Uuid
  conversationId : Uuid
deriving DecidableEq

/-- The columns that are unique together. -/
def SessionItem.scope (row : SessionItem) : Uuid × Uuid × Int :=
  (row.tenantId, row.sessionId, row.sequence)

def sessionItems : Constraints SessionItem Uuid where
  key := SessionItem.id
  clash first second := first.scope == second.scope
  clash_symm _ _ := BEq.comm

/-- `max(sequence)`, or 0 without rows. -/
def lastSequence (rows : List SessionItem) : Int := (rows.map SessionItem.sequence).max?.getD 0

/-! ## Calls -/

inductive SessionCall where
  | getItems (limit : Option Int)
  /-- Every item comes with the identifier that is drawn for its row. -/
  | addItems (items : List (Uuid × Dict))
  | popItem
  | clearSession

inductive SessionAnswer where
  | done
  | item (item : Option Dict)
  | items (items : List Dict)

inductive SessionFailure where
  /-- The database refuses a value. -/
  | data
  | integrity
deriving DecidableEq, Repr

namespace AgentSession

variable (session : AgentSession) (rows : List SessionItem)

def ownsRow (row : SessionItem) : Bool :=
  row.tenantId == session.tenantId && row.sessionId == session.sessionId &&
    row.conversationId == session.conversationId

def sharesSession (row : SessionItem) : Bool :=
  row.tenantId == session.tenantId && row.sessionId == session.sessionId

def getItems (limit : Option Int) : List Dict :=
  let selected := rows.filter session.ownsRow
  let values := match limit with
    | some limit => ((Table.orderByDesc SessionItem.sequence selected).take (max 0 limit).toNat).reverse
    | none => Table.orderBy SessionItem.sequence selected
  values.map SessionItem.item

/-- The rows that `add_items` adds after a sequence. -/
def newItems : Int → List (Uuid × Dict) → List SessionItem
  | _, [] => []
  | sequence, (id, item) :: rest =>
    { id := id
      tenantId := session.tenantId
      sessionId := session.sessionId
      conversationId := session.conversationId
      sequence := sequence + 1
      item := item } :: newItems (sequence + 1) rest

def addItems (items : List (Uuid × Dict)) : Except SessionFailure (List SessionItem) :=
  let added := (session.newItems (lastSequence (rows.filter session.sharesSession)) items).map
    RowWrite.insert
  if !items.all fun item ↦ jsonStorable (.obj item.2) then .error .data
  else if RowWrite.acceptedAll sessionItems rows added then
    .ok (RowWrite.applyAll sessionItems rows added)
  else .error .integrity

def popItem : Option Dict × List SessionItem :=
  match Table.latest SessionItem.sequence (rows.filter session.ownsRow) with
  | none => (none, rows)
  | some value => (some value.item, rows.filter fun row ↦ row.id ≠ value.id)

def clearSession : List SessionItem :=
  let values := rows.filter session.ownsRow
  rows.filter fun row ↦ row.id ∉ values.map SessionItem.id

/-- One call of a session object, with the rows after its transaction. -/
def serve : SessionCall → Except SessionFailure SessionAnswer × List SessionItem
  | .getItems limit => (.ok (.items (session.getItems rows limit)), rows)
  | .addItems items =>
    match session.addItems rows items with
    | .ok added => (.ok .done, added)
    | .error failure => (.error failure, rows)
  | .popItem => (.ok (.item (session.popItem rows).1), (session.popItem rows).2)
  | .clearSession => (.ok .done, session.clearSession rows)

end AgentSession

/-- The calls of any number of session objects, one transaction after the other. -/
def agentSessions :
    Machine (List SessionItem) (AgentSession × SessionCall) (Except SessionFailure SessionAnswer) where
  step rows call := call.1.serve rows call.2

/-! ## A list for each conversation -/

/-- What the sessions are for: every conversation has a list of items. -/
abbrev Conversations := AgentSession → List Dict

/-- The answer to a call and the lists after it. -/
def Conversations.serve (lists : Conversations) (session : AgentSession) :
    SessionCall → SessionAnswer × Conversations
  | .getItems none => (.items (lists session), lists)
  | .getItems (some limit) =>
    (.items ((lists session).drop ((lists session).length - (max 0 limit).toNat)), lists)
  | .addItems items =>
    (.done, Function.update lists session (lists session ++ items.map Prod.snd))
  | .popItem => (.item (lists session).getLast?, Function.update lists session (lists session).dropLast)
  | .clearSession => (.done, Function.update lists session [])

/-- The list that the rows hold for each conversation. -/
def conversations (rows : List SessionItem) : Conversations := fun session ↦
  (Table.orderBy SessionItem.sequence (rows.filter session.ownsRow)).map SessionItem.item

/-- The identifiers that a call draws are distinct and not used so far. -/
def FreshIds (rows : List SessionItem) : SessionCall → Prop
  | .addItems items =>
    (items.map Prod.fst).Nodup ∧ ∀ id ∈ items.map Prod.fst, id ∉ rows.map SessionItem.id
  | _ => True

/-- The column takes the items of a call. -/
def SessionCall.storable : SessionCall → Bool
  | .addItems items => items.all fun item ↦ jsonStorable (.obj item.2)
  | _ => true

/-! ## The rows of a session -/

/-- The rows of every session stand in the order of their sequences, and identifiers are distinct. -/
structure Ordered (rows : List SessionItem) : Prop where
  ids : (rows.map SessionItem.id).Nodup
  increasing : rows.Pairwise fun first second ↦
    first.tenantId = second.tenantId → first.sessionId = second.sessionId →
      first.sequence < second.sequence

namespace Ordered

variable {rows : List SessionItem} {session : AgentSession}

theorem filter (h : Ordered rows) (selected : SessionItem → Bool) : Ordered (rows.filter selected) where
  ids := h.ids.sublist (List.filter_sublist.map _)
  increasing := h.increasing.filter selected

theorem scopes_nodup (h : Ordered rows) : (rows.map SessionItem.scope).Nodup := by
  rw [List.Nodup, List.pairwise_map]
  refine h.increasing.imp fun {first second} hlt heq ↦ ?_
  simp only [SessionItem.scope, Prod.mk.injEq] at heq
  exact absurd (hlt heq.1 heq.2.1) (Int.not_lt.mpr (Int.le_of_eq heq.2.2.symm))

/-- The rows of a conversation stand in the order in which they are read. -/
theorem owned (h : Ordered rows) (session : AgentSession) :
    Table.Increasing SessionItem.sequence (rows.filter session.ownsRow) := by
  refine (h.filter session.ownsRow).increasing.imp_of_mem fun {first second} hfirst hsecond hlt ↦ ?_
  have howned := (List.mem_filter.mp hfirst).2
  have howned' := (List.mem_filter.mp hsecond).2
  simp only [AgentSession.ownsRow, Bool.and_eq_true, beq_iff_eq] at howned howned'
  exact hlt (howned.1.1.trans howned'.1.1.symm) (howned.1.2.trans howned'.1.2.symm)

theorem conversations_eq (h : Ordered rows) (session : AgentSession) :
    conversations rows session = (rows.filter session.ownsRow).map SessionItem.item := by
  rw [conversations, (h.owned session).orderBy_eq]

end Ordered

section Adding

variable {session : AgentSession} {rows : List SessionItem} {sequence : Int}
  {items : List (Uuid × Dict)}

theorem lastSequence_le {row : SessionItem} (h : row ∈ rows) : row.sequence ≤ lastSequence rows := by
  unfold lastSequence
  cases hmax : (rows.map SessionItem.sequence).max? with
  | none =>
    rw [List.max?_eq_none_iff, List.map_eq_nil_iff] at hmax
    rw [hmax] at h
    cases h
  | some last => exact (List.max?_eq_some_iff.mp hmax).2 _ (List.mem_map_of_mem h)

theorem newItems_spec (session : AgentSession) (sequence : Int) (items : List (Uuid × Dict)) :
    ∀ row ∈ session.newItems sequence items,
      session.ownsRow row = true ∧ sequence < row.sequence := by
  induction items generalizing sequence with
  | nil => nofun
  | cons first rest ih =>
    refine List.forall_mem_cons.mpr ⟨⟨by simp [AgentSession.ownsRow], Int.lt_succ sequence⟩, ?_⟩
    exact fun row hrow ↦ ⟨(ih _ row hrow).1, (Int.lt_succ sequence).trans (ih _ row hrow).2⟩

theorem newItems_increasing (session : AgentSession) (sequence : Int) (items : List (Uuid × Dict)) :
    Table.Increasing SessionItem.sequence (session.newItems sequence items) := by
  induction items generalizing sequence with
  | nil => exact List.Pairwise.nil
  | cons first rest ih =>
    exact List.pairwise_cons.mpr ⟨fun row hrow ↦ (newItems_spec session _ rest row hrow).2, ih _⟩

theorem newItems_items (session : AgentSession) (sequence : Int) (items : List (Uuid × Dict)) :
    (session.newItems sequence items).map SessionItem.item = items.map Prod.snd := by
  induction items generalizing sequence with
  | nil => rfl
  | cons first rest ih => exact congrArg (first.2 :: ·) (ih _)

theorem newItems_ids (session : AgentSession) (sequence : Int) (items : List (Uuid × Dict)) :
    (session.newItems sequence items).map SessionItem.id = items.map Prod.fst := by
  induction items generalizing sequence with
  | nil => rfl
  | cons first rest ih => exact congrArg (first.1 :: ·) (ih _)

/-- The rows of `add_items` behind the rows that are there. -/
theorem ordered_append (h : Ordered rows) (hfresh : FreshIds rows (.addItems items)) :
    Ordered (rows ++ session.newItems (lastSequence (rows.filter session.sharesSession)) items) := by
  set added := session.newItems (lastSequence (rows.filter session.sharesSession)) items with hadded
  have hspec := newItems_spec session (lastSequence (rows.filter session.sharesSession)) items
  constructor
  · rw [List.map_append, hadded, newItems_ids]
    refine List.nodup_append.mpr ⟨h.ids, hfresh.1, fun id hid other hother heq ↦ ?_⟩
    exact hfresh.2 other hother (heq ▸ hid)
  · refine List.pairwise_append.mpr ⟨h.increasing, ?_, fun old hold new hnew htenant hsession ↦ ?_⟩
    · exact (newItems_increasing session _ items).imp fun hlt _ _ ↦ hlt
    · obtain ⟨howned, hlast⟩ := hspec new hnew
      simp only [AgentSession.ownsRow, Bool.and_eq_true, beq_iff_eq] at howned
      refine lt_of_le_of_lt (lastSequence_le (List.mem_filter.mpr ⟨hold, ?_⟩)) hlast
      simp [AgentSession.sharesSession, htenant, hsession, howned]

/-- The constraints admit rows that continue their session exactly when the identifiers are fresh. -/
theorem acceptedAll_iff (h : Ordered rows) :
    RowWrite.acceptedAll sessionItems rows
        ((session.newItems (lastSequence (rows.filter session.sharesSession)) items).map .insert) =
        true ↔
      FreshIds rows (.addItems items) := by
  set added := session.newItems (lastSequence (rows.filter session.sharesSession)) items with hadded
  have hids : added.map SessionItem.id = items.map Prod.fst := newItems_ids session _ items
  rw [RowWrite.acceptedAll_insert]
  constructor
  · rintro ⟨hold, hpairs⟩
    refine ⟨?_, fun id hid ↦ ?_⟩
    · rw [← hids, List.Nodup, List.pairwise_map]
      exact hpairs.imp fun hpair ↦ hpair.1.symm
    · rw [← hids, List.mem_map] at hid
      obtain ⟨row, hrow, rfl⟩ := hid
      intro hused
      obtain ⟨old, hmem, heq⟩ := List.mem_map.mp hused
      exact (hold row hrow old hmem).1 heq.symm
  · intro hfresh
    -- the rows behind each other have distinct identifiers and scopes
    have hordered : Ordered (rows ++ session.newItems _ items) := ordered_append h hfresh
    rw [← hadded] at hordered
    have hnodup := hordered.ids
    have hscopes := hordered.scopes_nodup
    rw [List.Nodup, List.pairwise_map, List.pairwise_append] at hnodup hscopes
    constructor
    · intro row hrow old hold
      exact ⟨(hnodup.2.2 old hold row hrow).symm,
        beq_eq_false_iff_ne.mpr (hscopes.2.2 old hold row hrow).symm⟩
    · exact (hnodup.2.1.and hscopes.2.1).imp fun hne ↦
        ⟨hne.1.symm, beq_eq_false_iff_ne.mpr hne.2.symm⟩

theorem addItems_of_not_storable (hitems : (SessionCall.addItems items).storable = false) :
    session.addItems rows items = .error .data := by
  simp only [SessionCall.storable] at hitems
  simp only [AgentSession.addItems, hitems, Bool.not_false, if_true]

/-- `add_items` puts items that the column takes behind the others, or raises. -/
theorem addItems_cases (h : Ordered rows) (session : AgentSession)
    (hitems : (SessionCall.addItems items).storable = true) :
    (FreshIds rows (.addItems items) ∧ session.addItems rows items =
        .ok (rows ++ session.newItems (lastSequence (rows.filter session.sharesSession)) items)) ∨
      (¬FreshIds rows (.addItems items) ∧ session.addItems rows items = .error .integrity) := by
  simp only [SessionCall.storable] at hitems
  simp only [AgentSession.addItems, hitems, Bool.not_true, Bool.false_eq_true, if_false]
  by_cases hfresh : FreshIds rows (.addItems items)
  · refine Or.inl ⟨hfresh, ?_⟩
    simp only [(acceptedAll_iff h).mpr hfresh, if_true, RowWrite.applyAll_insert]
  · exact Or.inr ⟨hfresh, if_neg fun haccepted ↦ hfresh ((acceptedAll_iff h).mp haccepted)⟩

end Adding

/-! ## What a call does to the lists -/

section Calls

variable {rows : List SessionItem} {session other : AgentSession}

/-- A row belongs to one conversation. -/
theorem ownsRow_unique {row : SessionItem} (h : session.ownsRow row = true)
    (hother : other.ownsRow row = true) : other = session := by
  simp only [AgentSession.ownsRow, Bool.and_eq_true, beq_iff_eq] at h hother
  obtain ⟨tenantId, sessionId, conversationId⟩ := session
  obtain ⟨tenantId', sessionId', conversationId'⟩ := other
  obtain ⟨⟨rfl, rfl⟩, rfl⟩ := h
  obtain ⟨⟨rfl, rfl⟩, rfl⟩ := hother
  rfl

theorem conversations_add (h : Ordered rows) {items : List (Uuid × Dict)}
    (hfresh : FreshIds rows (.addItems items)) :
    conversations
        (rows ++ session.newItems (lastSequence (rows.filter session.sharesSession)) items) =
      Function.update (conversations rows) session
        (conversations rows session ++ items.map Prod.snd) := by
  have hspec := newItems_spec session (lastSequence (rows.filter session.sharesSession)) items
  funext other
  rw [(ordered_append h hfresh).conversations_eq, List.filter_append, List.map_append]
  by_cases hother : other = session
  · subst hother
    have hnew := List.filter_eq_self.mpr fun row hrow ↦ (hspec row hrow).1
    rw [Function.update_self, h.conversations_eq, hnew, newItems_items]
  · have hnew : (session.newItems (lastSequence (rows.filter session.sharesSession)) items).filter
        other.ownsRow = [] :=
      List.filter_eq_nil_iff.mpr fun row hrow howned ↦
        hother (ownsRow_unique (hspec row hrow).1 howned)
    rw [Function.update_of_ne hother, h.conversations_eq, hnew, List.map_nil, List.append_nil]

/-- Deleting rows of one conversation keeps the rows of the others. -/
theorem filter_ownsRow_delete (h : Ordered rows) {values : List SessionItem}
    (hvalues : ∀ value ∈ values, value ∈ rows.filter session.ownsRow) (hother : other ≠ session) :
    (rows.filter fun row ↦ row.id ∉ values.map SessionItem.id).filter other.ownsRow =
      rows.filter other.ownsRow := by
  rw [List.filter_comm]
  refine List.filter_eq_self.mpr fun row hrow ↦ decide_eq_true ?_
  intro hdeleted
  obtain ⟨value, hvalue, hid⟩ := List.mem_map.mp hdeleted
  obtain ⟨hmem, howned⟩ := List.mem_filter.mp (hvalues value hvalue)
  obtain ⟨hrow, hrowned⟩ := List.mem_filter.mp hrow
  obtain rfl := Table.eq_of_key h.ids hmem hrow hid
  exact hother (ownsRow_unique howned hrowned)

theorem conversations_clear (h : Ordered rows) :
    conversations (session.clearSession rows) = Function.update (conversations rows) session [] := by
  funext other
  rw [AgentSession.clearSession, (h.filter _).conversations_eq]
  by_cases hother : other = session
  · subst hother
    have hnone : (rows.filter fun row ↦
        row.id ∉ (rows.filter other.ownsRow).map SessionItem.id).filter other.ownsRow = [] := by
      rw [List.filter_comm]
      refine List.filter_eq_nil_iff.mpr fun row hrow hkept ↦ ?_
      exact of_decide_eq_true hkept (List.mem_map_of_mem hrow)
    rw [Function.update_self, hnone, List.map_nil]
  · rw [Function.update_of_ne hother, h.conversations_eq,
      filter_ownsRow_delete h (fun _ hvalue ↦ hvalue) hother]

theorem conversations_pop (session : AgentSession) (h : Ordered rows) :
    (session.popItem rows).1 = (conversations rows session).getLast? ∧
      conversations (session.popItem rows).2 =
        Function.update (conversations rows) session (conversations rows session).dropLast := by
  have hconversation := h.conversations_eq session
  have hlatest := (h.owned session).latest_eq
  rcases List.eq_nil_or_concat (rows.filter session.ownsRow) with hnil | ⟨earlier, value, hrows⟩
  · rw [hnil] at hlatest
    rw [hnil, List.map_nil] at hconversation
    have hpop : session.popItem rows = (none, rows) := by
      simp only [AgentSession.popItem, hnil, hlatest, List.getLast?_nil]
    rw [hpop, hconversation]
    refine ⟨rfl, ?_⟩
    rw [List.dropLast_nil, ← hconversation, Function.update_eq_self]
  · rw [List.concat_eq_append] at hrows
    rw [hrows, List.getLast?_concat] at hlatest
    rw [hrows, List.map_append, List.map_singleton] at hconversation
    have hpop : session.popItem rows =
        (some value.item, rows.filter fun row ↦ row.id ∉ [value].map SessionItem.id) := by
      simp only [AgentSession.popItem, hrows, hlatest, List.map_singleton, List.mem_singleton]
    rw [hpop, hconversation, List.getLast?_concat, List.dropLast_concat]
    refine ⟨rfl, funext fun other ↦ ?_⟩
    rw [(h.filter _).conversations_eq]
    by_cases hother : other = session
    · subst hother
      have hids := (h.filter other.ownsRow).ids
      rw [hrows, List.map_append, List.nodup_append] at hids
      rw [Function.update_self, List.filter_comm, hrows, List.filter_append]
      have hkept : earlier.filter (fun row ↦ row.id ∉ [value].map SessionItem.id) = earlier := by
        refine List.filter_eq_self.mpr fun row hrow ↦ decide_eq_true ?_
        intro hvalue
        exact hids.2.2 row.id (List.mem_map_of_mem hrow) row.id hvalue rfl
      rw [hkept]
      simp
    · have hvalue : ∀ row ∈ [value], row ∈ rows.filter session.ownsRow := by
        rw [hrows]
        exact fun row hrow ↦ List.mem_append_right _ hrow
      rw [Function.update_of_ne hother, h.conversations_eq,
        filter_ownsRow_delete h hvalue hother]

/-- The last rows of a conversation, read backwards and turned around. -/
theorem getItems_eq (h : Ordered rows) (limit : Option Int) :
    session.getItems rows limit = match limit with
      | none => conversations rows session
      | some limit => (conversations rows session).drop
          ((conversations rows session).length - (max 0 limit).toNat) := by
  have howned := h.owned session
  cases limit with
  | none => rfl
  | some limit =>
    simp only [AgentSession.getItems, h.conversations_eq, howned.orderByDesc_eq, List.length_map]
    rw [List.take_reverse, List.reverse_reverse, List.map_drop]

end Calls

theorem ordered_step {rows : List SessionItem} (h : Ordered rows) (call : AgentSession × SessionCall) :
    Ordered (agentSessions.step rows call).2 := by
  obtain ⟨session, call⟩ := call
  cases call with
  | getItems limit => exact h
  | addItems items =>
    simp only [agentSessions, AgentSession.serve]
    cases hitems : (SessionCall.addItems items).storable with
    | false =>
      rw [addItems_of_not_storable hitems]
      exact h
    | true =>
      rcases addItems_cases h session hitems with ⟨hfresh, hadd⟩ | ⟨-, hadd⟩
      · rw [hadd]
        exact ordered_append h hfresh
      · rw [hadd]
        exact h
  | popItem =>
    simp only [agentSessions, AgentSession.serve, AgentSession.popItem]
    split
    · exact h
    · exact h.filter _
  | clearSession => exact h.filter _

/-- A call with an item that the column refuses changes nothing. -/
theorem serve_of_not_storable {call : SessionCall} (hcall : call.storable = false)
    (session : AgentSession) (rows : List SessionItem) :
    session.serve rows call = (.error .data, rows) := by
  cases call with
  | addItems items => simp only [AgentSession.serve, addItems_of_not_storable hcall]
  | _ => cases hcall

/-- One call is one step of the lists, or it raises and changes nothing. -/
theorem serve_refines {rows : List SessionItem} (h : Ordered rows) (session : AgentSession)
    {call : SessionCall} (hcall : call.storable = true) :
    (FreshIds rows call ∧ ∃ answer, (session.serve rows call).1 = .ok answer ∧
        (conversations rows).serve session call = (answer, conversations (session.serve rows call).2)) ∨
      (¬FreshIds rows call ∧ session.serve rows call = (.error .integrity, rows)) := by
  cases call with
  | getItems limit =>
    refine Or.inl ⟨trivial, _, rfl, ?_⟩
    rw [getItems_eq h]
    cases limit <;> rfl
  | addItems items =>
    simp only [AgentSession.serve]
    rcases addItems_cases h session hcall with ⟨hfresh, hadd⟩ | ⟨hused, hadd⟩
    · refine Or.inl ⟨hfresh, .done, by rw [hadd], ?_⟩
      rw [hadd]
      exact congrArg (Prod.mk SessionAnswer.done) (conversations_add h hfresh).symm
    · exact Or.inr ⟨hused, by rw [hadd]⟩
  | popItem =>
    obtain ⟨hitem, hrows⟩ := conversations_pop session h
    refine Or.inl ⟨trivial, _, rfl, ?_⟩
    rw [hitem]
    exact congrArg (Prod.mk _) hrows.symm
  | clearSession =>
    exact Or.inl ⟨trivial, .done, rfl, congrArg (Prod.mk SessionAnswer.done) (conversations_clear h).symm⟩

/-- The sessions are a list for each conversation. In every run of calls on any sessions and
conversations, every call answers and changes the lists as the list of its conversation says and
touches no other list; only a call with an item that the column refuses and a call that draws a used
identifier raise, and they change nothing. The tenant, session and sequence of the stored items stay
distinct together. -/
theorem sessions_refine_lists (calls : List (AgentSession × SessionCall)) :
    (∀ e ∈ agentSessions.log [] calls,
      (e.input.2.storable = true → FreshIds e.before e.input.2 → ∃ answer, e.output = .ok answer ∧
        (conversations e.before).serve e.input.1 e.input.2 = (answer, conversations e.after)) ∧
      (e.input.2.storable = true → ¬FreshIds e.before e.input.2 →
        e.output = .error .integrity ∧ e.after = e.before) ∧
      (e.input.2.storable = false → e.output = .error .data ∧ e.after = e.before)) ∧
      ((agentSessions.run [] calls).map SessionItem.scope).Nodup := by
  have hordered : Ordered [] := ⟨List.nodup_nil, List.Pairwise.nil⟩
  constructor
  · intro e he
    have hbefore : Ordered e.before :=
      agentSessions.invariant_before Ordered hordered (fun _ call h ↦ ordered_step h call) calls he
    obtain ⟨earlier, call, later, -, rfl⟩ := (agentSessions.mem_log_iff [] calls e).mp he
    refine ⟨fun hcall hfresh ↦ ?_, fun hcall hused ↦ ?_, fun hcall ↦ ?_⟩
    · rcases serve_refines hbefore call.1 hcall with ⟨-, hserve⟩ | ⟨hused, -⟩
      · exact hserve
      · exact absurd hfresh hused
    · rcases serve_refines hbefore call.1 hcall with ⟨hfresh, -⟩ | ⟨-, hserve⟩
      · exact absurd hfresh hused
      · exact ⟨congrArg Prod.fst hserve, congrArg Prod.snd hserve⟩
    · have hserve := serve_of_not_storable hcall call.1 (agentSessions.run [] earlier)
      exact ⟨congrArg Prod.fst hserve, congrArg Prod.snd hserve⟩
  · exact (agentSessions.run_invariant Ordered hordered (fun _ call h ↦ ordered_step h call)
      calls).scopes_nodup

/-- An item that holds the null character. -/
def nullItem : AgentSession × SessionCall :=
  (⟨1, 2, 3⟩, .addItems [(10, [("role", .str "user"), ("content", .str "\x00")])])

/-- The item is appended to no list, although its identifier is fresh. -/
theorem null_item_refused :
    ¬∀ calls, ∀ e ∈ agentSessions.log [] calls, FreshIds e.before e.input.2 →
      ∃ answer, e.output = .ok answer ∧
        (conversations e.before).serve e.input.1 e.input.2 = (answer, conversations e.after) := by
  intro hlists
  have hfresh : FreshIds [] nullItem.2 := ⟨List.nodup_singleton 10, fun _ _ ↦ List.not_mem_nil⟩
  have hrefused : nullItem.2.storable = false := by decide
  have hserve := serve_of_not_storable hrefused nullItem.1 []
  obtain ⟨answer, hanswer, -⟩ :=
    hlists [nullItem] (agentSessions.entry [] nullItem) List.mem_cons_self hfresh
  cases hanswer.symm.trans (congrArg Prod.fst hserve)

/-- Two conversations of one session in turn: the sequence of a popped item is used again. -/
example :
    let first : AgentSession := ⟨1, 2, 3⟩
    let second : AgentSession := ⟨1, 2, 4⟩
    let rows := agentSessions.run []
      [(first, .addItems [(10, []), (11, [])]), (second, .addItems [(12, [])]), (second, .popItem),
        (first, .addItems [(13, [])])]
    rows.map SessionItem.sequence = [1, 2, 3] ∧ (first.getItems rows (some (-1))).length = 0 ∧
      (first.getItems rows none).length = 3 := by
  decide

end Xyena.Memory
