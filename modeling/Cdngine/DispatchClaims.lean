import Cdngine.WorkflowDispatch

/-!
# Claims of Dispatches

Any number of claims at once, with the record calls of the dispatchers and the execution
calls of the workers, statement by statement under READ COMMITTED.

A claim takes a candidate only if the candidate still has the version token with which it
was selected. Every write on a dispatch raises its token, and from its update to its commit
a claim keeps the row locked, so at the commit the row is as the claim found it.

## Main results

* `HeldRows`: what a call holds advances, for the calls of all kinds.
* `ClaimInv`, `claims_invariant`: what holds of a claim at each of its locations.
* `claims_exclusive`: the law of the claims, in every state and at every step of every run.
-/

open Relational Runs ReadCommitted

namespace Cdngine

variable {ι : Type}

/-! ### Dispatches advance -/

/-- A dispatch is replaced by one with a higher token, and its first attempt is kept. -/
def WorkflowDispatch.Advances (row row' : WorkflowDispatch) : Prop :=
  row.versionToken < row'.versionToken ∧
    ∀ t, row.firstAttemptAt = some t → row'.firstAttemptAt = some t

/-- Every dispatch stays as it is or advances. -/
def Db.DispatchesAdvance (db db' : Db) : Prop :=
  ∀ {id row}, db.workflowDispatch? id = some row →
    ∃ row', db'.workflowDispatch? id = some row' ∧ (row' = row ∨ row.Advances row')

/-- The writes of a call keep to their rows, and the dispatches that it holds have advanced. -/
structure HeldRows (s : Session Db DispatchRow DispatchLocation) (db : Db) : Prop where
  keeps : ∀ w ∈ s.pending, w.KeepsToRow DispatchRow.find
  held : ∀ {id}, s.Holds (.dispatch id) → ∃ row row', db.workflowDispatch? id = some row ∧
    (s.view db).workflowDispatch? id = some row' ∧ row.Advances row'

/-- What the steps of others leave a call: the rows it holds, and dispatches that advance. -/
structure Db.SparesHeld (s : Session Db DispatchRow DispatchLocation) (db db' : Db) : Prop where
  dispatch : ∀ {id}, s.Holds (.dispatch id) → db'.workflowDispatch? id = db.workflowDispatch? id
  run : ∀ {workflowId}, s.Holds (.run workflowId) →
    db'.workflowRun? workflowId = db.workflowRun? workflowId
  advance : db.DispatchesAdvance db'

section Held

variable {s s' : Session Db DispatchRow DispatchLocation} {db db' : Db}

theorem HeldRows.idle {location : DispatchLocation} : HeldRows ⟨location, []⟩ db :=
  ⟨(fun w hw => by cases hw), fun h => absurd h Session.not_holds_nil⟩

theorem HeldRows.relocate {location : DispatchLocation} (h : HeldRows s db) :
    HeldRows ⟨location, s.pending⟩ db :=
  ⟨h.keeps, h.held⟩

theorem HeldRows.frame (h : HeldRows s db) (hspares : db.SparesHeld s db') : HeldRows s db' where
  keeps := h.keeps
  held {id} hid := by
    obtain ⟨row, row', hrow, hrow', hadvances⟩ := h.held hid
    have hsame := hspares.dispatch hid
    exact ⟨row, row', hsame.trans hrow, (view_workflowDispatch?_congr h.keeps hsame).trans hrow',
      hadvances⟩

/-- The commit of a call advances dispatches. -/
theorem HeldRows.advance (h : HeldRows s db) : db.DispatchesAdvance (s.view db) := by
  intro id row hrow
  by_cases hid : s.Holds (.dispatch id)
  · obtain ⟨row₀, row', hrow₀, hrow', hadvances⟩ := h.held hid
    obtain rfl := Option.some.inj (hrow₀.symm.trans hrow)
    exact ⟨row', hrow', .inr hadvances⟩
  · exact ⟨row, (view_workflowDispatch? h.keeps hid).trans hrow, .inl rfl⟩

/-- The commit of a call spares the calls that hold other rows. -/
theorem HeldRows.spares (h : HeldRows s db) (hapart : s.Apart s') :
    db.SparesHeld s' (s.view db) where
  dispatch hid := view_workflowDispatch? h.keeps fun hs => hapart _ hs hid
  run hid := view_workflowRun? h.keeps fun hs => hapart _ hs hid
  advance := h.advance

theorem Db.SameDispatches.spares (h : db.SameDispatches db') (hheld : HeldRows s db) :
    db.SparesHeld s db' where
  dispatch hid := by
    obtain ⟨row, -, hrow, -⟩ := hheld.held hid
    rw [h.dispatch hrow, hrow]
  run _ := h.run _
  advance {id row} hrow := ⟨row, h.dispatch hrow, .inl rfl⟩

/-- An update of a dispatch that raises its token, or that a raise precedes. -/
theorem HeldRows.updateDispatch {next : DispatchLocation} {id : String} {columns : DispatchUpdate}
    {row₁ : WorkflowDispatch} (h : HeldRows s db)
    (hrow₁ : (s.view db).workflowDispatch? id = some row₁)
    (hfirst : ∀ t, row₁.firstAttemptAt = some t → (columns.data row₁).firstAttemptAt = some t)
    (htoken : row₁.versionToken < (columns.data row₁).versionToken ∨
      s.Holds (.dispatch id) ∧ row₁.versionToken ≤ (columns.data row₁).versionToken) :
    HeldRows ⟨next, s.pending ++ [Cdngine.updateDispatch id columns]⟩ db where
  keeps w hw := by
    rcases List.mem_append.mp hw with hw | hw
    · exact h.keeps w hw
    · obtain rfl := List.mem_singleton.mp hw
      exact updateDispatch_keepsToRow id columns
  held {key} hkey := by
    rw [Session.view_append, workflowDispatch?_updateDispatch]
    by_cases hid : key = id
    · subst hid
      rw [hrow₁]
      simp only [if_true, Option.map_some]
      by_cases hheld : s.Holds (.dispatch key)
      · obtain ⟨row, row', hrow, hrow', hlt, hkept⟩ := h.held hheld
        obtain rfl := Option.some.inj (hrow'.symm.trans hrow₁)
        refine ⟨row, _, hrow, rfl, ?_, fun t ht => hfirst t (hkept t ht)⟩
        rcases htoken with hraise | ⟨-, hle⟩
        · exact lt_trans hlt hraise
        · exact lt_of_lt_of_le hlt hle
      · have hsame := @view_workflowDispatch? s db key h.keeps hheld
        refine ⟨row₁, _, hsame.symm.trans hrow₁, rfl, ?_, hfirst⟩
        rcases htoken with hraise | ⟨hholds, -⟩
        · exact hraise
        · exact absurd hholds hheld
    · simp only [hid, if_false, Option.map_id']
      refine h.held ((Session.holds_append.mp hkey).resolve_right fun hrow => hid ?_)
      exact (DispatchRow.dispatch.inj hrow).symm

/-- A write that leaves the dispatches as they are. -/
theorem HeldRows.write {next : DispatchLocation} {w : Write Db DispatchRow} (h : HeldRows s db)
    (hkeeps : w.KeepsToRow DispatchRow.find) (hrow : ∀ id, w.row ≠ .dispatch id) :
    HeldRows ⟨next, s.pending ++ [w]⟩ db where
  keeps x hx := by
    rcases List.mem_append.mp hx with hx | hx
    · exact h.keeps x hx
    · obtain rfl := List.mem_singleton.mp hx
      exact hkeeps
  held {id} hid := by
    have hheld := (Session.holds_append.mp hid).resolve_right (hrow id)
    obtain ⟨row, row', hrow₁, hrow', hadvances⟩ := h.held hheld
    refine ⟨row, row', hrow₁, ?_, hadvances⟩
    have hframe : DispatchRow.find (.dispatch id) (w.effect (s.view db)) =
        DispatchRow.find (.dispatch id) (s.view db) := hkeeps.frame (hrow id).symm
    rw [Session.view_append]
    exact (StoredRow.dispatch.inj hframe).trans hrow'

end Held

/-! ### What holds of a call -/

/-- A dispatch after a claim that found it as it is. -/
def WorkflowDispatch.claimedBy (input : ClaimPendingWorkflowDispatchesInput)
    (row : WorkflowDispatch) :
    WorkflowDispatch :=
  (row.claim input).data row

/-- The candidates that a claim has still to look at: their rows may have advanced since. -/
def TodoInv (todo : List WorkflowDispatch) (db : Db) : Prop :=
  ∀ c ∈ todo, ∃ row, db.workflowDispatch? c.id = some row ∧ c.versionToken ≤ row.versionToken ∧
    (row.versionToken = c.versionToken → row.firstAttemptAt = c.firstAttemptAt)

/-- The dispatches that a claim has taken: it holds exactly the rows `ids`. -/
structure TakenInv (input : ClaimPendingWorkflowDispatchesInput) (ids : List String)
    (claimed : List WorkflowDispatchRecord) (s : Session Db DispatchRow DispatchLocation)
    (db : Db) :
    Prop where
  rows : ∀ w ∈ s.pending, ∃ id, w.row = .dispatch id
  holds : ∀ {id}, s.Holds (.dispatch id) ↔ id ∈ ids
  nodup : ids.Nodup
  taken : ∀ {id}, id ∈ ids → ∃ row, db.workflowDispatch? id = some row ∧ row.claimable = true ∧
    (s.view db).workflowDispatch? id = some (row.claimedBy input)
  records : ∀ r ∈ claimed, r.dispatchId ∈ ids ∧
    ∃ row, db.workflowDispatch? r.dispatchId = some row ∧
    r = mapDispatchRecord (row.claimedBy input)

/-- What holds of a claim at each of its locations. -/
def ClaimInv (input : ClaimPendingWorkflowDispatchesInput)
    (s : Session Db DispatchRow DispatchLocation) (db : Db) : Prop :=
  match s.location with
  | .start => s.pending = []
  | .claimNext todo claimed =>
      TodoInv todo db ∧ TakenInv input (claimed.map (·.dispatchId)) claimed s db
  | .readClaimed candidate todo claimed =>
      TodoInv todo db ∧ TakenInv input (claimed.map (·.dispatchId) ++ [candidate.id]) claimed s db
  | .claimed records =>
      s.pending = [] ∧ ∀ r ∈ records, ∃ row, db.workflowDispatch? r.dispatchId = some row ∧
        r.versionToken ≤ row.versionToken
  | _ => False

/-- A record call holds its dispatch between its two updates of it. -/
def RecordHolds (call : RecordCall) (s : Session Db DispatchRow DispatchLocation) : Prop :=
  match s.location with
  | .start | .transition => s.pending = []
  | .mutate => s.Holds (.dispatch call.dispatchId)
  | .claimed _ => False
  | _ => True

/-- What holds of a call at each of its locations. -/
def DispatchInv (calls : ι → DispatchCall) (i : ι) (s : Session Db DispatchRow DispatchLocation)
    (db : Db) : Prop :=
  HeldRows s db ∧
    match calls i with
    | .claimPendingDispatches input => ClaimInv input s db
    | .record call => RecordHolds call s
    | .execution _ => ∀ records, s.location ≠ .claimed records

section Steps

variable {input : ClaimPendingWorkflowDispatchesInput} {s : Session Db DispatchRow DispatchLocation}
  {db db' : Db} {next : DispatchLocation} {ids : List String}
  {claimed : List WorkflowDispatchRecord} {todo : List WorkflowDispatch}

theorem TodoInv.advance (h : TodoInv todo db) (hadvance : db.DispatchesAdvance db') :
    TodoInv todo db' := by
  intro c hc
  obtain ⟨row, hrow, hle, hfirst⟩ := h c hc
  obtain ⟨row', hrow', rfl | ⟨hlt, -⟩⟩ := hadvance hrow
  · exact ⟨row', hrow', hle, hfirst⟩
  · exact ⟨row', hrow', le_of_lt (lt_of_le_of_lt hle hlt), fun heq => by omega⟩

theorem TakenInv.frame (h : TakenInv input ids claimed s db) (hheld : HeldRows s db)
    (hspares : db.SparesHeld s db') : TakenInv input ids claimed s db' where
  rows := h.rows
  holds := h.holds
  nodup := h.nodup
  taken {id} hid := by
    obtain ⟨row, hrow, hclaimable, hview⟩ := h.taken hid
    have hsame := hspares.dispatch (h.holds.mpr hid)
    exact ⟨row, hsame.trans hrow, hclaimable,
      (view_workflowDispatch?_congr hheld.keeps hsame).trans hview⟩
  records r hr := by
    obtain ⟨hid, row, hrow, heq⟩ := h.records r hr
    exact ⟨hid, row, (hspares.dispatch (h.holds.mpr hid)).trans hrow, heq⟩

/-- **Frame**: a claim that is spared keeps its invariant. -/
theorem ClaimInv.frame (h : ClaimInv input s db) (hheld : HeldRows s db)
    (hspares : db.SparesHeld s db') : ClaimInv input s db' := by
  obtain ⟨location, pending⟩ := s
  cases location with
  | start => exact h
  | claimNext todo claimed => exact ⟨h.1.advance hspares.advance, h.2.frame hheld hspares⟩
  | readClaimed candidate todo claimed =>
      exact ⟨h.1.advance hspares.advance, h.2.frame hheld hspares⟩
  | claimed records =>
      refine ⟨h.1, fun r hr => ?_⟩
      obtain ⟨row, hrow, hle⟩ := h.2 r hr
      obtain ⟨row', hrow', rfl | ⟨hlt, -⟩⟩ := hspares.advance hrow
      · exact ⟨row', hrow', hle⟩
      · exact ⟨row', hrow', le_of_lt (lt_of_le_of_lt hle hlt)⟩
  | _ => exact h

theorem TakenInv.idle {location : DispatchLocation} : TakenInv input [] [] ⟨location, []⟩ db where
  rows w hw := by cases hw
  holds {id} := by simp [Session.Holds]
  nodup := List.nodup_nil
  taken h := by cases h
  records r hr := by cases hr

/-- The selection of the candidates. -/
theorem TodoInv.candidates : TodoInv (claimCandidates input db) db := by
  intro c hc
  have hrow := List.mem_of_mem_take hc
  have hmem := (List.mem_filter.mp hrow).1
  exact ⟨c, workflowDispatch?_eq_some_iff.mpr ⟨hmem, rfl⟩, le_refl _, fun _ => rfl⟩

/-- The guard of the update of a claim finds the candidate's row. -/
theorem guards_countP {candidate : WorkflowDispatch}
    (h : db.workflowDispatches.countP candidate.guards = 1) :
    ∃ row, db.workflowDispatch? candidate.id = some row ∧ row.claimable = true ∧
      row.versionToken = candidate.versionToken := by
  have hkey : Table.IsKey candidate.guards := by
    intro a b ha hb
    simp only [WorkflowDispatch.guards, Bool.and_eq_true, beq_iff_eq] at ha hb
    simp [clash, sameKey, ha.1.2, hb.1.2]
  obtain ⟨row, hrow, hguards⟩ := (Table.countP_eq_one_iff hkey).mp h
  simp only [WorkflowDispatch.guards, Bool.and_eq_true, beq_iff_eq] at hguards
  obtain ⟨⟨hclaimable, hid⟩, htoken⟩ := hguards
  exact ⟨row, workflowDispatch?_eq_some_iff.mpr ⟨hrow, hid⟩, hclaimable, htoken⟩

/-- A claimed dispatch is not claimable. -/
theorem not_claimable_claimedBy (row : WorkflowDispatch) :
    (row.claimedBy input).claimable = false := rfl

/-- **A claim takes its next candidate**, whose row is as it was selected. -/
theorem ClaimInv.take {candidate : WorkflowDispatch} (hheld : HeldRows s db)
    (htodo : TodoInv (candidate :: todo) db)
    (htaken : TakenInv input (claimed.map (·.dispatchId)) claimed s db)
    (hcount : (s.view db).workflowDispatches.countP candidate.guards = 1) :
    HeldRows ⟨next, s.pending ++ [updateDispatch candidate.id (candidate.claim input)]⟩ db ∧
      TakenInv input (claimed.map (·.dispatchId) ++ [candidate.id]) claimed
        ⟨next, s.pending ++ [updateDispatch candidate.id (candidate.claim input)]⟩ db := by
  obtain ⟨row, hview, hclaimable, htoken⟩ := guards_countP hcount
  -- The candidate has not been taken yet, since what is taken is not claimable.
  have hnew : candidate.id ∉ claimed.map (·.dispatchId) := by
    intro hmem
    obtain ⟨row₀, -, -, htakenView⟩ := htaken.taken hmem
    obtain rfl := Option.some.inj (htakenView.symm.trans hview)
    rw [not_claimable_claimedBy] at hclaimable
    cases hclaimable
  have hfree : ¬ s.Holds (.dispatch candidate.id) := fun h => hnew (htaken.holds.mp h)
  have hrow : db.workflowDispatch? candidate.id = some row :=
    (view_workflowDispatch? hheld.keeps hfree).symm.trans hview
  -- The token says that the first attempt is as it was selected.
  have hfirst : row.firstAttemptAt = candidate.firstAttemptAt := by
    obtain ⟨row₀, hrow₀, -, hsame⟩ := htodo candidate List.mem_cons_self
    obtain rfl := Option.some.inj (hrow₀.symm.trans hrow)
    exact hsame htoken
  have hdata : (candidate.claim input).data row = row.claimedBy input := by
    simp only [WorkflowDispatch.claimedBy, WorkflowDispatch.claim, hfirst]
  have hsees : ∀ id, (Session.view ⟨next, s.pending ++ [updateDispatch candidate.id
      (candidate.claim input)]⟩ db).workflowDispatch? id =
        if id = candidate.id then some (row.claimedBy input) else
          (s.view db).workflowDispatch? id := by
    intro id
    rw [Session.view_append, workflowDispatch?_updateDispatch]
    by_cases hid : id = candidate.id
    · subst hid
      rw [hview]
      simp only [if_true, Option.map_some, hdata]
    · simp only [hid, if_false, Option.map_id']
  refine ⟨hheld.updateDispatch hview ?_ (.inl ?_), ?_, ?_, ?_, ?_, ?_⟩
  · intro t ht
    rw [hdata]
    simp only [WorkflowDispatch.claimedBy, WorkflowDispatch.claim, ht, Option.getD_some]
  · rw [hdata]
    simp only [WorkflowDispatch.claimedBy, WorkflowDispatch.claim]
    omega
  · intro w hw
    rcases List.mem_append.mp hw with hw | hw
    · exact htaken.rows w hw
    · obtain rfl := List.mem_singleton.mp hw
      exact ⟨_, rfl⟩
  · intro id
    rw [Session.holds_append, htaken.holds, List.mem_append, List.mem_singleton]
    exact or_congr_right ⟨fun h => (DispatchRow.dispatch.inj h).symm, fun h => by rw [h]; rfl⟩
  · exact List.nodup_append.mpr ⟨htaken.nodup, List.nodup_singleton _, fun a ha b hb hab =>
      hnew (List.mem_singleton.mp hb ▸ hab ▸ ha)⟩
  · intro id hid
    rw [hsees]
    by_cases hcandidate : id = candidate.id
    · subst hcandidate
      exact ⟨row, hrow, hclaimable, by rw [if_pos rfl]⟩
    · rw [if_neg hcandidate]
      exact htaken.taken ((List.mem_append.mp hid).resolve_right fun h =>
        hcandidate (List.mem_singleton.mp h))
  · intro r hr
    obtain ⟨hid, hrecord⟩ := htaken.records r hr
    exact ⟨List.mem_append_left _ hid, hrecord⟩

/-- What a claim has read back is the record of what it has taken. -/
theorem TakenInv.read {location location' : DispatchLocation}
    {pending : List (Write Db DispatchRow)} {id : String} {record : WorkflowDispatch}
    (h : TakenInv input (claimed.map (·.dispatchId) ++ [id]) claimed ⟨location, pending⟩ db)
    (hview : (Session.view ⟨location, pending⟩ db).workflowDispatch? id = some record) :
    TakenInv input ((claimed ++ [mapDispatchRecord record]).map (·.dispatchId))
      (claimed ++ [mapDispatchRecord record]) ⟨location', pending⟩ db := by
  have hid : record.id = id := (workflowDispatch?_eq_some_iff.mp hview).2
  have hids : (claimed ++ [mapDispatchRecord record]).map (·.dispatchId) =
      claimed.map (·.dispatchId) ++ [id] := by
    rw [List.map_append, ← hid]
    rfl
  rw [hids]
  refine ⟨h.rows, h.holds, h.nodup, h.taken, fun r hr => ?_⟩
  rcases List.mem_append.mp hr with hr | hr
  · exact h.records r hr
  · obtain rfl := List.mem_singleton.mp hr
    have hmem : id ∈ claimed.map (·.dispatchId) ++ [id] :=
      List.mem_append_right _ List.mem_cons_self
    obtain ⟨row, hrow, -, htaken⟩ := h.taken hmem
    obtain rfl := Option.some.inj (htaken.symm.trans hview)
    have hdispatch : (mapDispatchRecord (row.claimedBy input)).dispatchId = id := hid
    rw [hdispatch]
    exact ⟨hmem, row, hrow, rfl⟩

/-- A claim takes no candidate that has moved, and reads back the ones that it takes. -/
theorem ClaimInv.query (h : ClaimInv input s db)
    (hcode : claimCode input s.location (s.view db) = .query next) :
    ClaimInv input ⟨next, s.pending⟩ db := by
  obtain ⟨location, pending⟩ := s
  cases location with
  | start =>
      have hidle : pending = [] := h
      subst hidle
      obtain rfl := Action.query.inj hcode
      exact ⟨TodoInv.candidates, TakenInv.idle⟩
  | claimNext todo claimed =>
      cases todo with
      | nil => cases hcode
      | cons candidate todo =>
          simp only [claimCode] at hcode
          split at hcode
          · cases hcode
          · obtain rfl := Action.query.inj hcode
            exact ⟨fun c hc => h.1 c (List.mem_cons_of_mem _ hc),
              ⟨h.2.rows, h.2.holds, h.2.nodup, h.2.taken, h.2.records⟩⟩
  | readClaimed candidate todo claimed =>
      simp only [claimCode] at hcode
      split at hcode
      · rename_i record hview
        obtain rfl := Action.query.inj hcode
        exact ⟨h.1, h.2.read hview⟩
      · rename_i hview
        obtain ⟨row, -, -, htaken⟩ := h.2.taken (List.mem_append_right _ List.mem_cons_self)
        rw [hview] at htaken
        cases htaken
  | _ => cases hcode

/-- The write of a claim. -/
theorem ClaimInv.write {w : Write Db DispatchRow} (hheld : HeldRows s db) (h : ClaimInv input s db)
    (hcode : claimCode input s.location (s.view db) = .write w next) :
    HeldRows ⟨next, s.pending ++ [w]⟩ db ∧ ClaimInv input ⟨next, s.pending ++ [w]⟩ db := by
  obtain ⟨location, pending⟩ := s
  cases location with
  | claimNext todo claimed =>
      cases todo with
      | nil => cases hcode
      | cons candidate todo =>
          simp only [claimCode] at hcode
          split at hcode
          · rename_i hcount
            obtain ⟨rfl, rfl⟩ := Action.write.inj hcode
            obtain ⟨hheld', htaken⟩ := ClaimInv.take hheld h.1 h.2 hcount
            exact ⟨hheld', fun c hc => h.1 c (List.mem_cons_of_mem _ hc), htaken⟩
          · cases hcode
  | readClaimed candidate todo claimed =>
      simp only [claimCode] at hcode
      split at hcode <;> cases hcode
  | _ => cases hcode

/-- Where a claim commits: all candidates have been looked at. -/
theorem claimCode_commit (hcode : claimCode input s.location (s.view db) = .commit next) :
    ∃ claimed, s.location = .claimNext [] claimed ∧ next = .claimed claimed := by
  obtain ⟨location, pending⟩ := s
  cases location with
  | claimNext todo claimed =>
      cases todo with
      | nil => exact ⟨claimed, rfl, (Action.commit.inj hcode).symm⟩
      | cons candidate todo =>
          simp only [claimCode] at hcode
          split at hcode <;> cases hcode
  | readClaimed candidate todo claimed =>
      simp only [claimCode] at hcode
      split at hcode <;> cases hcode
  | _ => cases hcode

/-! ### Record calls and execution calls -/

variable {rt : Runtime}

/-- A record call that reads. -/
theorem RecordHolds.query {call : RecordCall} (h : RecordHolds call s)
    (hcode : recordCode rt call s.location (s.view db) = .query next) :
    RecordHolds call ⟨next, s.pending⟩ := by
  obtain ⟨location, pending⟩ := s
  cases recordCode_cases hcode (by simp) with
  | check hcheck => exact h
  | readDispatch hcall hrow => trivial
  | duplicateRun hcall hrow => trivial
  | readRun hcall => trivial

/-- The write of a record call: it raises the token of its dispatch, and keeps what it holds. -/
theorem RecordHolds.write {call : RecordCall} {w : Write Db DispatchRow} (hheld : HeldRows s db)
    (h : RecordHolds call s) (hcode : recordCode rt call s.location (s.view db) = .write w next) :
    HeldRows ⟨next, s.pending ++ [w]⟩ db ∧ RecordHolds call ⟨next, s.pending ++ [w]⟩ := by
  obtain ⟨location, pending⟩ := s
  cases recordCode_cases hcode (by simp) with
  | transition hrow =>
      have hraise : ∀ row : WorkflowDispatch,
          row.versionToken < (call.transition.data row).versionToken := fun row => by
        simp only [RecordCall.transition]
        omega
      exact ⟨hheld.updateDispatch hrow (fun t ht => ht) (.inl (hraise _)),
        Session.holds_append.mpr (.inr rfl)⟩
  | failure hcall hrow =>
      exact ⟨hheld.updateDispatch hrow (fun t ht => ht) (.inr ⟨h, le_refl _⟩), trivial⟩
  | projectRun hcall happly =>
      exact ⟨hheld.write (RunStatement.write_keepsToRow _) (by intro id heq; cases heq), trivial⟩
  | writeRun happly =>
      exact ⟨hheld.write (RunStatement.write_keepsToRow _) (by intro id heq; cases heq), trivial⟩

/-- The write of an execution call. -/
theorem executionCode_write {call : ExecutionCall} {w : Write Db DispatchRow}
    (hheld : HeldRows s db) (hcode : executionCode rt call s.location (s.view db) = .write w next) :
    HeldRows ⟨next, s.pending ++ [w]⟩ db := by
  obtain ⟨location, pending⟩ := s
  cases executionCode_cases hcode (by simp) with
  | failVersion hfailed =>
      exact hheld.write (failVersion_keepsToRow _) (by intro id heq; cases heq)
  | writeRun => exact hheld.write (RunStatement.write_keepsToRow _) (by intro id heq; cases heq)
  | audit => exact hheld.write (insertEvent_keepsToRow _ _) (by intro id heq; cases heq)

/-- No call writes outside its transaction. -/
theorem dispatchCode_ne_autocommit {calls : ι → DispatchCall} {i : ι} {location : DispatchLocation}
    {w : Write Db DispatchRow} : dispatchCode rt calls i location db ≠ .autocommit w next := by
  intro h
  rw [dispatchCode] at h
  cases hcall : calls i with
  | claimPendingDispatches input =>
      rw [hcall] at h
      revert h
      cases location with
      | claimNext todo claimed =>
          cases todo with
          | nil => exact nofun
          | cons candidate todo =>
              simp only [claimCode]
              split <;> exact nofun
      | readClaimed candidate todo claimed =>
          simp only [claimCode]
          split <;> exact nofun
      | _ => exact nofun
  | record call =>
      rw [hcall] at h
      cases recordCode_cases h (by simp)
  | execution call =>
      rw [hcall] at h
      cases executionCode_cases h (by simp)

/-- A claim does not roll back. -/
theorem claimCode_ne_rollback {location : DispatchLocation} :
    claimCode input location db ≠ .rollback next := by
  cases location with
  | claimNext todo claimed =>
      cases todo with
      | nil => exact nofun
      | cons candidate todo =>
          simp only [claimCode]
          split <;> exact nofun
  | readClaimed candidate todo claimed =>
      simp only [claimCode]
      split <;> exact nofun
  | _ => exact nofun

end Steps

/-! ### The invariant -/

section Invariant

variable {rt : Runtime} {calls : ι → DispatchCall} {i : ι}
  {s : Session Db DispatchRow DispatchLocation} {db db' : Db} {next : DispatchLocation}

/-- A call that is spared keeps its invariant. -/
theorem DispatchInv.frame (h : DispatchInv calls i s db) (hspares : db.SparesHeld s db') :
    DispatchInv calls i s db' := by
  refine ⟨h.1.frame hspares, ?_⟩
  have hcall := h.2
  cases hi : calls i with
  | claimPendingDispatches input =>
      rw [hi] at hcall
      exact ClaimInv.frame hcall h.1 hspares
  | record call =>
      rw [hi] at hcall
      exact hcall
  | execution call =>
      rw [hi] at hcall
      exact hcall

/-- The commit of a call keeps its invariant. -/
theorem DispatchInv.commit (h : DispatchInv calls i s db)
    (hcode : dispatchCode rt calls i s.location (s.view db) = .commit next) :
    DispatchInv calls i ⟨next, []⟩ (s.view db) := by
  refine ⟨HeldRows.idle, ?_⟩
  have hcall := h.2
  rw [dispatchCode] at hcode
  cases hi : calls i with
  | claimPendingDispatches input =>
      rw [hi] at hcall hcode
      obtain ⟨claimed, hlocation, rfl⟩ := claimCode_commit hcode
      unfold ClaimInv at hcall
      rw [hlocation] at hcall
      refine ⟨rfl, fun r hr => ?_⟩
      obtain ⟨hid, row, hrow, rfl⟩ := hcall.2.records r hr
      obtain ⟨row₀, hrow₀, -, hview⟩ := hcall.2.taken hid
      obtain rfl := Option.some.inj (hrow₀.symm.trans hrow)
      exact ⟨_, hview, le_refl _⟩
  | record call =>
      rw [hi] at hcode
      cases hlocation : s.location <;> rw [hlocation] at hcode <;>
        cases recordCode_cases hcode (by simp)
      trivial
  | execution call =>
      rw [hi] at hcode
      cases hlocation : s.location <;> rw [hlocation] at hcode <;>
        cases executionCode_cases hcode (by simp)
      exact nofun

variable (rt calls) in
/-- **What holds of the calls is kept by their statements.** -/
theorem claims_invariant [DecidableEq ι] :
    LocalInvariant (dispatchCode rt calls) Db.SameDispatches (fun _ _ _ => True) (fun _ => True)
      (DispatchInv calls) where
  query {i s db next} _ h _ hcode := by
    refine ⟨h.1.relocate, ?_⟩
    have hcall := h.2
    rw [dispatchCode] at hcode
    cases hi : calls i with
    | claimPendingDispatches input =>
        rw [hi] at hcall hcode
        exact hcall.query hcode
    | record call =>
        rw [hi] at hcall hcode
        exact hcall.query hcode
    | execution call =>
        rw [hi] at hcode
        cases hlocation : s.location <;> rw [hlocation] at hcode <;>
          cases executionCode_cases hcode (by simp)
        exact nofun
  write {i s db w next} _ h _ hcode := by
    have hcall := h.2
    rw [dispatchCode] at hcode
    unfold DispatchInv
    cases hi : calls i with
    | claimPendingDispatches input =>
        rw [hi] at hcall hcode
        exact hcall.write h.1 hcode
    | record call =>
        rw [hi] at hcall hcode
        exact hcall.write h.1 hcode
    | execution call =>
        rw [hi] at hcode
        refine ⟨executionCode_write h.1 hcode, ?_⟩
        cases hlocation : s.location <;> rw [hlocation] at hcode <;>
          cases executionCode_cases hcode (by simp) <;> exact nofun
  autocommit _ _ _ hcode := absurd hcode dispatchCode_ne_autocommit
  autocommit_frame _ _ _ hcode := absurd hcode dispatchCode_ne_autocommit
  commit _ h _ hcode := ⟨trivial, h.commit hcode⟩
  commit_frame _ h _ _ _ hapart hj := hj.frame (h.1.spares hapart)
  rollback {i s db next} _ h _ hcode := by
    refine ⟨HeldRows.idle, ?_⟩
    rw [dispatchCode] at hcode
    cases hi : calls i with
    | claimPendingDispatches input =>
        rw [hi] at hcode
        exact absurd hcode claimCode_ne_rollback
    | record call =>
        rw [hi] at hcode
        cases hlocation : s.location <;> rw [hlocation] at hcode <;>
          cases recordCode_cases hcode (by simp) <;> trivial
    | execution call =>
        rw [hi] at hcode
        cases hlocation : s.location <;> rw [hlocation] at hcode <;>
          cases executionCode_cases hcode (by simp) <;> exact nofun
  environment _ _ := trivial
  environment_frame _ henv h := h.frame (henv.spares h.1)

end Invariant

/-! ### The law of the claims -/

/-- **The commit of a claim**: the dispatches that it returns were pending or failed
retryable, and are now starting, with a token higher by one and the time of their first
attempt; nothing else changes. -/
structure ClaimCommit (input : ClaimPendingWorkflowDispatchesInput)
    (records : List WorkflowDispatchRecord) (db db' : Db) : Prop where
  nodup : (records.map (·.dispatchId)).Nodup
  claimed : ∀ r ∈ records, ∃ row row', db.workflowDispatch? r.dispatchId = some row ∧
    db'.workflowDispatch? r.dispatchId = some row' ∧ r = mapDispatchRecord row' ∧
    (row.dispatchState = .pending ∨ row.dispatchState = .failedRetryable) ∧
    row'.dispatchState = .starting ∧ row'.versionToken = row.versionToken + 1 ∧
    row'.firstAttemptAt = some (row.firstAttemptAt.getD input.claimedAt)
  others : ∀ id, id ∉ records.map (·.dispatchId) →
    db'.workflowDispatch? id = db.workflowDispatch? id
  runs : ∀ workflowId, db'.workflowRun? workflowId = db.workflowRun? workflowId

/-- No dispatch is claimed twice with one version token. -/
structure ClaimsExclusive (sys : DispatchSystem ι) : Prop where
  one_claimer {i j : ι} {records records' : List WorkflowDispatchRecord}
    {r r' : WorkflowDispatchRecord} : (sys.session i).location = .claimed records →
    (sys.session j).location = .claimed records' → r ∈ records → r' ∈ records' →
    r.dispatchId = r'.dispatchId → r.versionToken = r'.versionToken → i = j

/-- **The law of a step**: a claim changes the dispatches when it commits, and no step
changes the time of a first attempt. -/
structure Transition.KeepsClaims (calls : ι → DispatchCall)
    (τ : Transition (DispatchSystem ι) (Event ι Db)) : Prop where
  claim {i : ι} {input : ClaimPendingWorkflowDispatchesInput} :
    calls i = .claimPendingDispatches input → τ.action = .session i →
    (∃ records, (τ.after.session i).location = .claimed records ∧
      ClaimCommit input records τ.before.db τ.after.db) ∨
    ((∀ records, (τ.after.session i).location ≠ .claimed records) ∧ τ.after.db = τ.before.db)
  firstAttempt {id : String} {row : WorkflowDispatch} {t : Instant} :
    τ.before.db.workflowDispatch? id = some row → row.firstAttemptAt = some t →
    ∃ row', τ.after.db.workflowDispatch? id = some row' ∧ row'.firstAttemptAt = some t

/-- The invariant of the calls, with claims that are exclusive. -/
structure ClaimsInv (calls : ι → DispatchCall) (sys : DispatchSystem ι) : Prop where
  satisfies : sys.Satisfies (fun _ => True) (DispatchInv calls)
  exclusive : ClaimsExclusive sys

section Law

variable {rt : Runtime} {calls : ι → DispatchCall} {i : ι} {db : Db}
  {s : Session Db DispatchRow DispatchLocation} {input : ClaimPendingWorkflowDispatchesInput}

/-- A claim ends by its commit. -/
theorem claimCode_claimed {location : DispatchLocation} {records : List WorkflowDispatchRecord}
    (h : (claimCode input location db).next? = some (.claimed records)) :
    claimCode input location db = .commit (.claimed records) := by
  revert h
  cases location with
  | start => exact nofun
  | claimNext todo claimed =>
      cases todo with
      | nil =>
          intro h
          exact congrArg Action.commit (Option.some.inj h)
      | cons candidate todo =>
          simp only [claimCode]
          split <;> exact nofun
  | readClaimed candidate todo claimed =>
      simp only [claimCode]
      split <;> exact nofun
  | _ => exact nofun

/-- Only a claim ends with dispatches. -/
theorem dispatchCode_claimed {location : DispatchLocation} {records : List WorkflowDispatchRecord}
    (h : (dispatchCode rt calls i location db).next? = some (.claimed records)) :
    dispatchCode rt calls i location db = .commit (.claimed records) ∧
      ∃ input, calls i = .claimPendingDispatches input := by
  rw [dispatchCode] at h ⊢
  cases hi : calls i with
  | claimPendingDispatches input =>
      rw [hi] at h
      exact ⟨claimCode_claimed h, input, rfl⟩
  | record call =>
      rw [hi] at h
      have hhalt : recordCode rt call location db ≠ .halt := by
        intro heq
        simp only [heq] at h
        cases h
      cases hstep : recordCode rt call location db with
      | halt => exact absurd hstep hhalt
      | _ =>
          simp only [hstep] at h
          obtain rfl := Option.some.inj h
          cases recordCode_cases hstep (by simp)
  | execution call =>
      rw [hi] at h
      have hhalt : executionCode rt call location db ≠ .halt := by
        intro heq
        simp only [heq] at h
        cases h
      cases hstep : executionCode rt call location db with
      | halt => exact absurd hstep hhalt
      | _ =>
          simp only [hstep] at h
          obtain rfl := Option.some.inj h
          cases executionCode_cases hstep (by simp)

/-- **What the commit of a claim does.** -/
theorem ClaimInv.commits {claimed : List WorkflowDispatchRecord} (hheld : HeldRows s db)
    (h : ClaimInv input s db) (hlocation : s.location = .claimNext [] claimed) :
    ClaimCommit input claimed db (s.view db) := by
  unfold ClaimInv at h
  rw [hlocation] at h
  obtain ⟨-, htaken⟩ := h
  refine ⟨htaken.nodup, fun r hr => ?_, fun id hid => ?_, fun workflowId => ?_⟩
  · obtain ⟨hid, row, hrow, rfl⟩ := htaken.records r hr
    obtain ⟨row₀, hrow₀, hclaimable, hview⟩ := htaken.taken hid
    obtain rfl := Option.some.inj (hrow₀.symm.trans hrow)
    simp only [WorkflowDispatch.claimable, Bool.or_eq_true, beq_iff_eq] at hclaimable
    exact ⟨row₀, _, hrow, hview, rfl, hclaimable, rfl, rfl, rfl⟩
  · exact view_workflowDispatch? hheld.keeps fun hheld => hid (htaken.holds.mp hheld)
  · refine view_workflowRun? hheld.keeps fun hheld => ?_
    obtain ⟨w, hw, hrow⟩ := hheld
    obtain ⟨id, hid⟩ := htaken.rows w hw
    cases hid.symm.trans hrow

variable [DecidableEq ι] {sys sys' : DispatchSystem ι}

/-- A session that has ended with dispatches has taken them after the others. -/
theorem ClaimsExclusive.set (h : ClaimsExclusive sys)
    (hnew : ∀ {records r}, s.location = .claimed records → r ∈ records →
      ∀ {j records' r'}, j ≠ i → (sys.session j).location = .claimed records' → r' ∈ records' →
        r.dispatchId = r'.dispatchId → r.versionToken ≠ r'.versionToken) :
    ClaimsExclusive (sys.set i db s) := by
  refine ⟨fun {j k records records' r r'} hj hk hr hr' hid htoken => ?_⟩
  by_cases hji : j = i
  · subst hji
    rw [System.set_session_self] at hj
    by_cases hkj : k = j
    · exact hkj.symm
    · rw [System.set_session_of_ne hkj] at hk
      exact absurd htoken (hnew hj hr hkj hk hr' hid)
  · rw [System.set_session_of_ne hji] at hj
    by_cases hki : k = i
    · subst hki
      rw [System.set_session_self] at hk
      exact absurd htoken.symm (hnew hk hr' hji hj hr hid.symm)
    · rw [System.set_session_of_ne hki] at hk
      exact h.one_claimer hj hk hr hr' hid htoken

/-- **One step keeps the claims exclusive**: the token of a new claim is above those of the
earlier claims. -/
theorem ClaimsInv.step {e : Event ι Db} (h : ClaimsInv calls sys)
    (hstep : Step (dispatchCode rt calls) Db.SameDispatches sys e sys') : ClaimsInv calls sys' := by
  refine ⟨(claims_invariant rt calls).step h.satisfies hstep fun _ _ => trivial, ?_⟩
  cases e with
  | environment db =>
      cases hstep with
      | environment henv => exact ⟨h.exclusive.one_claimer⟩
  | session i =>
      have hown := h.satisfies.own i
      have hother : ∀ {action : Action Db DispatchRow DispatchLocation} {next},
          dispatchCode rt calls i (sys.session i).location ((sys.session i).view sys.db) = action →
          action.next? = some next → (∀ next', action ≠ .commit next') →
          ∀ {records}, next ≠ .claimed records := by
        intro action next hcode haction hcommit records hclaimed
        subst hclaimed
        exact hcommit _ (hcode.symm.trans (dispatchCode_claimed (hcode ▸ haction)).1)
      cases step_cases hstep with
      | query hcode =>
          exact h.exclusive.set fun hlocation => absurd hlocation (hother hcode rfl (by simp))
      | write hcode hfree =>
          exact h.exclusive.set fun hlocation => absurd hlocation (hother hcode rfl (by simp))
      | autocommit hcode hfree =>
          exact h.exclusive.set fun hlocation => absurd hlocation (hother hcode rfl (by simp))
      | rollback hcode =>
          exact h.exclusive.set fun hlocation => absurd hlocation (hother hcode rfl (by simp))
      | commit hcode =>
          refine h.exclusive.set ?_
          intro records r heq hr j records' r' hji hj hr' hid htoken
          have hnext :
            dispatchCode rt calls i (sys.session i).location ((sys.session i).view sys.db) =
              .commit (.claimed records) := heq ▸ hcode
          obtain ⟨input, hcall⟩ := (dispatchCode_claimed (by rw [hnext]; rfl)).2
          have hclaim := hown.2
          rw [dispatchCode, hcall] at hnext
          rw [hcall] at hclaim
          obtain ⟨claimed, hlocation, hclaimed⟩ := claimCode_commit hnext
          obtain rfl := DispatchLocation.claimed.inj hclaimed
          obtain ⟨row, row', hrow, -, rfl, -, -, hraise, -⟩ :=
            (ClaimInv.commits hown.1 hclaim hlocation).claimed r hr
          -- The other claim had its token from the row that this one has raised.
          have hdone := (h.satisfies.own j).2
          cases hcall' : calls j with
          | claimPendingDispatches input' =>
              rw [hcall'] at hdone
              unfold ClaimInv at hdone
              rw [hj] at hdone
              obtain ⟨row₁, hrow₁, hle⟩ := hdone.2 r' hr'
              rw [← hid] at hrow₁
              obtain rfl := Option.some.inj (hrow₁.symm.trans hrow)
              have hraised : (mapDispatchRecord row').versionToken = row'.versionToken := rfl
              omega
          | record call =>
              rw [hcall'] at hdone
              unfold RecordHolds at hdone
              rw [hj] at hdone
              exact hdone.elim
          | execution call =>
              rw [hcall'] at hdone
              exact hdone records' hj

/-- **The law of a step**, from the invariant. -/
theorem ClaimsInv.keeps {e : Event ι Db} (h : ClaimsInv calls sys)
    (hstep : Step (dispatchCode rt calls) Db.SameDispatches sys e sys') :
    Transition.KeepsClaims calls ⟨sys, e, sys'⟩ := by
  refine ⟨?_, ?_⟩
  · rintro i input hcall rfl
    have hown := h.satisfies.own i
    have hother : ∀ {action : Action Db DispatchRow DispatchLocation} {next},
        dispatchCode rt calls i (sys.session i).location ((sys.session i).view sys.db) = action →
        action.next? = some next → (∀ next', action ≠ .commit next') →
        ∀ records, next ≠ .claimed records := by
      intro action next hcode haction hcommit records hclaimed
      subst hclaimed
      exact hcommit _ (hcode.symm.trans (dispatchCode_claimed (hcode ▸ haction)).1)
    cases step_cases hstep with
    | query hcode =>
        refine .inr ⟨?_, rfl⟩
        rw [System.set_session_self]
        exact hother hcode rfl (by simp)
    | write hcode hfree =>
        refine .inr ⟨?_, rfl⟩
        rw [System.set_session_self]
        exact hother hcode rfl (by simp)
    | autocommit hcode hfree => exact absurd hcode dispatchCode_ne_autocommit
    | rollback hcode =>
        refine .inr ⟨?_, rfl⟩
        rw [System.set_session_self]
        exact hother hcode rfl (by simp)
    | commit hcode =>
        have hclaim := hown.2
        rw [dispatchCode, hcall] at hcode
        rw [hcall] at hclaim
        obtain ⟨claimed, hlocation, rfl⟩ := claimCode_commit hcode
        refine .inl ⟨claimed, ?_, ClaimInv.commits hown.1 hclaim hlocation⟩
        rw [System.set_session_self]
  · intro id row t hrow ht
    cases e with
    | environment db =>
        cases hstep with
        | environment henv => exact ⟨row, henv.dispatch hrow, ht⟩
    | session i =>
        cases step_cases hstep with
        | commit hcode =>
            obtain ⟨row', hrow', rfl | hadvances⟩ := (h.satisfies.own i).1.advance hrow
            · exact ⟨row', hrow', ht⟩
            · exact ⟨row', hrow', hadvances.2 t ht⟩
        | autocommit hcode hfree => exact absurd hcode dispatchCode_ne_autocommit
        | _ => exact ⟨row, hrow, ht⟩

omit [DecidableEq ι] in
/-- The calls before their first statement. -/
theorem dispatchSystem_claimsInv : ClaimsInv calls (dispatchSystem db) where
  satisfies :=
    { exclusive := System.exclusive_of_idle fun i => rfl
      db := trivial
      own := fun i => by
        refine ⟨HeldRows.idle, ?_⟩
        cases calls i with
        | claimPendingDispatches input => rfl
        | record call => rfl
        | execution call => exact nofun }
  exclusive := ⟨fun hi => by cases hi⟩

/-- **Claims are exclusive**: over every interleaving of any number of claims, record calls
and execution calls, no dispatch is claimed twice with one version token, a claim moves
pending and failed retryable dispatches to starting and raises their tokens by one, and the
time of a first attempt never changes. -/
theorem claims_exclusive {tr : List (Transition (DispatchSystem ι) (Event ι Db))}
    (hrun : Run (Step (dispatchCode rt calls) Db.SameDispatches) (dispatchSystem db) tr sys') :
    ClaimsExclusive sys' ∧
      ∀ τ ∈ tr, ClaimsExclusive τ.after ∧ Transition.KeepsClaims calls τ := by
  obtain ⟨hend, hall⟩ := hrun.forall_invariant_where (C := fun _ => True)
    (fun h hstep _ => ClaimsInv.step h hstep) dispatchSystem_claimsInv fun _ _ => trivial
  refine ⟨hend.exclusive, fun τ hτ => ⟨(hall τ hτ).2.exclusive, ?_⟩⟩
  exact (hall τ hτ).1.keeps (hrun.step_of_mem τ hτ)

end Law

/-! ### Two claims of one dispatch -/

/-- A pending dispatch. -/
def sampleDispatch : WorkflowDispatch where
  id := "dispatch-1"
  assetVersionId := "version-1"
  workflowTemplateId := "asset-derivation-v1"
  dispatchReason := "canonicalized"
  dispatchState := .pending
  workflowKey := "media:asset-1:version-1:asset-derivation-v1"
  updatedAt := 0

/-- A registry with one pending dispatch. -/
def sampleDispatches : Db where
  workflowDispatches := ⟨[sampleDispatch], by decide⟩

/-- Two claims at once. -/
def sampleClaims (_ : Fin 2) : DispatchCall := .claimPendingDispatches ⟨1000, 10⟩

/-- The version tokens of the records that a claim has returned. -/
def DispatchLocation.claimedTokens : DispatchLocation → Option (List Int)
  | .claimed records => some (records.map (·.versionToken))
  | _ => none

theorem DispatchLocation.claimedTokens_eq_some {location : DispatchLocation} {tokens : List Int}
    (h : location.claimedTokens = some tokens) :
    ∃ records, location = .claimed records ∧ records.map (·.versionToken) = tokens := by
  cases location with
  | claimed records => exact ⟨records, rfl, Option.some.inj h⟩
  | _ => cases h

/-- Both claims select the dispatch before either of them updates it; one takes it. -/
theorem dispatch_claimed_once :
    ∃ tr sys', Run (Step (dispatchCode sampleRuntime sampleClaims) Db.SameDispatches)
        (dispatchSystem sampleDispatches) tr sys' ∧
      ((∃ r, (sys'.session 0).location = .claimed [r] ∧ r.versionToken = 2) ∧
        (sys'.session 1).location = .claimed []) ∧
      ClaimsExclusive sys' ∧
        ∀ τ ∈ tr, ClaimsExclusive τ.after ∧ Transition.KeepsClaims sampleClaims τ := by
  obtain ⟨tr, sys', hrun, hends⟩ := exists_run_of_schedule
    (dispatchCode sampleRuntime sampleClaims) Db.SameDispatches (dispatchSystem sampleDispatches)
    [0, 1, 0, 0, 0, 1, 1]
    (fun _ sys' =>
      (sys'.session 0).location.claimedTokens = some [2] ∧
        (sys'.session 1).location.claimedTokens = some [])
    (by decide +kernel)
  refine ⟨tr, sys', hrun, ?_, claims_exclusive hrun⟩
  obtain ⟨⟨claimed₀, hlocation₀, htokens₀⟩, claimed₁, hlocation₁, htokens₁⟩ :=
    hends.imp DispatchLocation.claimedTokens_eq_some DispatchLocation.claimedTokens_eq_some
  obtain ⟨r, rfl, htoken⟩ := List.map_eq_singleton_iff.mp htokens₀
  obtain rfl := List.map_eq_nil_iff.mp htokens₁
  exact ⟨⟨r, hlocation₀, htoken⟩, hlocation₁⟩

end Cdngine
