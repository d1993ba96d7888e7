import SqlCompose.Proofs.Responses
import SqlCompose.Run.Relations

/-!
# Handing rows to entities

Every owner is handed its rows once, in order. Each of them changes as its own code has it, and no
other entity changes.
-/

namespace SqlCompose

namespace Destination

variable {μ ε : Type}

theorem change_of_getElem? {m : μ} {es : List ε} {position : Nat} {e : ε}
    (found : es[position]? = some e) (f : Hook ε) :
    (Destination.entities m false es).change f position =
      (.entities m false (es.set position (f e).1), (f e).2) := by
  rw [change, found]
  rfl

/-- Handing rows to the owner inside an entity. -/
theorem change_attach [EntityType ε μ] {m : μ} {es : List ε} {position : Nat} {path : List String} {e owner : ε}
    (found : es[position]? = some e) (inside : EntityType.at? path e = some owner)
    (relation : String) (own : List Row) :
    (Destination.entities m false es).change
        (EntityType.changeAt (EntityType.attach relation own) path) position =
      (.entities m false
          (es.set position (EntityType.putAt (EntityType.attach relation own owner).1 path e)),
        (EntityType.attach relation own owner).2) := by
  rw [change_of_getElem? found, EntityType.changeAt_of_at? inside]

end Destination

/-! ## Owners in order -/

/-- What an owner is handed. -/
def Owner.attachment (path : List String) (relation : String) (columns : List String)
    (rows : List Row) (o : Owner) : Conversation.Attachment :=
  ⟨o.position, path, relation, rowsOf columns rows o.key⟩

/-- What handing rows to owners does: nothing is asked, and each of them is handed its rows. -/
structure HandsOut (path : List String) (relation : String) (columns : List String)
    (rows : List Row) (owners : List Owner) (marks : List Conversation.Mark) : Prop where
  unasked : Conversation.statements marks = []
  handed : Conversation.attachments marks =
    owners.map (Owner.attachment path relation columns rows)

section

variable {μ ε : Type} [EntityType ε μ]

/-- What becomes of entities whose owners are given their rows. -/
structure GivesAll (path : List String) (relation : String) (columns : List String)
    (rows : List Row) (owners : List Owner) (es es' : List ε) : Prop where
  length : es'.length = es.length
  given : ∀ o ∈ owners, ∃ e owner, es[o.position]? = some e ∧
    EntityType.at? path e = some owner ∧
    es'[o.position]? = some (EntityType.putAt
      (EntityType.attach relation (rowsOf columns rows o.key) owner).1 path e)
  untouched : ∀ i, (∀ o ∈ owners, o.position ≠ i) → es'[i]? = es[i]?

variable {path : List String} {relation : String} {columns : List String} {rows : List Row}

theorem HandsOut.nil : HandsOut path relation columns rows [] [] :=
  ⟨rfl, rfl⟩

theorem HandsOut.cons {owners : List Owner} {marks : List Conversation.Mark}
    (h : HandsOut path relation columns rows owners marks) (o : Owner) :
    HandsOut path relation columns rows (o :: owners)
      (.did (.attach o.position path relation (rowsOf columns rows o.key)) :: marks) := by
  refine ⟨h.unasked, ?_⟩
  rw [Conversation.attachments_attach, h.handed]
  rfl

theorem GivesAll.nil (es : List ε) : GivesAll path relation columns rows [] es es :=
  ⟨rfl, by simp, fun _ _ => rfl⟩

/-- The first owner is given its rows in an entity that the others leave alone. -/
theorem GivesAll.cons {o : Owner} {rest : List Owner} {es es' : List ε} {e owner : ε}
    (alone : ∀ o' ∈ rest, o'.position ≠ o.position) (found : es[o.position]? = some e)
    (inside : EntityType.at? path e = some owner)
    (h : GivesAll path relation columns rows rest (es.set o.position (EntityType.putAt
      (EntityType.attach relation (rowsOf columns rows o.key) owner).1 path e)) es') :
    GivesAll path relation columns rows (o :: rest) es es' where
  length := by rw [h.length, List.length_set]
  given := by
    intro o' ho'
    rcases List.mem_cons.mp ho' with rfl | ho'
    · refine ⟨e, owner, found, inside, ?_⟩
      rw [h.untouched _ alone]
      exact List.getElem?_set_self (List.getElem?_eq_some_iff.mp found).1
    · obtain ⟨old, owner', before, was, after⟩ := h.given o' ho'
      rw [List.getElem?_set_ne (Ne.symm (alone o' ho'))] at before
      exact ⟨old, owner', before, was, after⟩
  untouched := by
    intro i hi
    rw [h.untouched i fun o' ho' => hi o' (List.mem_cons_of_mem o ho')]
    exact List.getElem?_set_ne (hi o List.mem_cons_self)

variable (answer : String → Option Nat → Option Answer)

/-- Where nothing hears of rows, they are handed out all the same. -/
theorem respond_attachAll_of_fixed {d : Destination μ ε}
    (fixed : ∀ f position, d.change f position = (d, none)) (owners : List Owner) :
    ∃ marks, (attachAll path relation columns rows owners d).respond answer =
        (marks, some (d, none)) ∧ HandsOut path relation columns rows owners marks := by
  induction owners with
  | nil => exact ⟨[], rfl, .nil⟩
  | cons o rest ih =>
    obtain ⟨marks, responds, handsOut⟩ := ih
    rw [attachAll, fixed, Conversation.respond_effect, responds]
    exact ⟨_, rfl, handsOut.cons o⟩

theorem respond_attachAll {m : μ} {es : List ε} {owners : List Owner}
    (apart : (owners.map Owner.position).Nodup)
    (accepted : ∀ o ∈ owners, ∃ e owner, es[o.position]? = some e ∧
      EntityType.at? path e = some owner ∧
      (EntityType.attach relation (rowsOf columns rows o.key) owner).2 = none) :
    ∃ marks es', (attachAll path relation columns rows owners (.entities m false es)).respond
        answer = (marks, some (.entities m false es', none)) ∧
      HandsOut path relation columns rows owners marks ∧
      GivesAll path relation columns rows owners es es' := by
  induction owners generalizing es with
  | nil => exact ⟨[], es, rfl, .nil, .nil es⟩
  | cons o rest ih =>
    obtain ⟨e, owner, found, inside, accepts⟩ := accepted o List.mem_cons_self
    have step := Destination.change_attach (m := m) found inside relation
      (rowsOf columns rows o.key)
    rw [accepts] at step
    obtain ⟨first, apart'⟩ := List.nodup_cons.mp apart
    have alone : ∀ o' ∈ rest, o'.position ≠ o.position := by
      intro o' ho' same
      exact first (same ▸ List.mem_map_of_mem ho')
    -- The entities of the other owners are the ones they were.
    have accepted' : ∀ changed, ∀ o' ∈ rest, ∃ e owner,
        (es.set o.position changed)[o'.position]? = some e ∧ EntityType.at? path e = some owner ∧
        (EntityType.attach relation (rowsOf columns rows o'.key) owner).2 = none := by
      intro changed o' ho'
      rw [List.getElem?_set_ne (Ne.symm (alone o' ho'))]
      exact accepted o' (List.mem_cons_of_mem o ho')
    obtain ⟨marks, es', responds, handsOut, gives⟩ := ih apart' (accepted' (EntityType.putAt
      (EntityType.attach relation (rowsOf columns rows o.key) owner).1 path e))
    rw [attachAll, step, Conversation.respond_effect, responds]
    exact ⟨_, es', rfl, handsOut.cons o, gives.cons alone found inside⟩

end

end SqlCompose
