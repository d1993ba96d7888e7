import SqlCompose.Proofs.Attaching
import SqlCompose.Proofs.FirstError

/-!
# Loading a to-many relation

One statement asks for the rows of all owners, by each of their keys once, and the rows it gives are
shared out: every owner is handed the rows that carry its key, once, in the order of the entities.
Where no owner has a key nothing is asked, and where the statement fails nothing is handed out.
-/

namespace SqlCompose

namespace OwnerKey

/-! ## Distinct keys -/

theorem distinct_sublist (seen : List String) (ks : List OwnerKey) :
    (distinct seen ks).Sublist ks := by
  induction ks generalizing seen with
  | nil => exact .refl _
  | cons k rest ih =>
    rw [distinct]
    split
    · exact (ih seen).cons k
    · exact (ih _).cons_cons k

theorem not_mem_of_mem_distinct {seen : List String} {ks : List OwnerKey} {k : OwnerKey}
    (h : k ∈ distinct seen ks) : k.text ∉ seen := by
  induction ks generalizing seen with
  | nil => cases h
  | cons first rest ih =>
    rw [distinct] at h
    split at h
    · exact ih h
    · rename_i unseen
      rcases List.mem_cons.mp h with rfl | h
      · exact unseen
      · exact fun known => ih h (List.mem_cons_of_mem _ known)

theorem nodup_distinct (seen : List String) (ks : List OwnerKey) :
    ((distinct seen ks).map text).Nodup := by
  induction ks generalizing seen with
  | nil => exact List.nodup_nil
  | cons k rest ih =>
    rw [distinct]
    split
    · exact ih seen
    · refine List.nodup_cons.mpr ⟨fun again => ?_, ih _⟩
      obtain ⟨k', hk', same⟩ := List.mem_map.mp again
      exact not_mem_of_mem_distinct hk' (same ▸ List.mem_cons_self)

/-- The first key of a text is kept, unless the text was seen before. -/
theorem find?_mem_distinct (seen : List String) {ks : List OwnerKey} {k : OwnerKey} (hk : k ∈ ks)
    (unseen : k.text ∉ seen) :
    ∃ first ∈ distinct seen ks, ks.find? (·.text == k.text) = some first := by
  induction ks generalizing seen with
  | nil => cases hk
  | cons a rest ih =>
    rw [distinct]
    by_cases same : a.text = k.text
    · rw [if_neg (same ▸ unseen)]
      exact ⟨a, List.mem_cons_self, by simp [same]⟩
    · have later : k ∈ rest := by
        rcases List.mem_cons.mp hk with rfl | hk
        · exact absurd rfl same
        · exact hk
      rw [List.find?_cons_of_neg (by simpa using same)]
      split
      · exact ih seen later unseen
      · obtain ⟨first, kept, found⟩ := ih (a.text :: seen) later
          (by simp [unseen, Ne.symm same])
        exact ⟨first, List.mem_cons_of_mem a kept, found⟩

/-- Every key once, by its text: the keys that were seen first, in order. -/
structure FirstSeen (all keys : List OwnerKey) : Prop where
  in_order : keys.Sublist all
  once : (keys.map text).Nodup
  first : ∀ k ∈ all, ∃ first ∈ keys, all.find? (·.text == k.text) = some first

theorem firstSeen_distinct (all : List OwnerKey) : FirstSeen all (distinct [] all) where
  in_order := distinct_sublist [] all
  once := nodup_distinct [] all
  first := fun _ hk => find?_mem_distinct [] hk List.not_mem_nil

theorem FirstSeen.eq_nil_iff {all keys : List OwnerKey} (h : FirstSeen all keys) :
    keys = [] ↔ all = [] := by
  constructor
  · intro none
    refine List.eq_nil_iff_forall_not_mem.mpr fun k hk => ?_
    obtain ⟨first, kept, -⟩ := h.first k hk
    rw [none] at kept
    cases kept
  · intro none
    exact List.sublist_nil.mp (none ▸ h.in_order)

end OwnerKey

/-! ## Owners -/

section

variable {μ ε : Type} [EntityType ε μ] {d : Destination μ ε} {path fields : List String}

theorem mem_ownersOf {o : Owner} :
    o ∈ ownersOf d path fields ↔ ∃ e owner, d.items[o.position]? = some e ∧
      d.inside? path e = some owner ∧ o.key = OwnerKey.ofEntity? fields owner := by
  unfold ownersOf
  simp only [List.mem_filterMap, List.mem_zipIdx_iff_getElem?, Prod.exists, Option.map_eq_some_iff]
  constructor
  · rintro ⟨e, position, found, owner, inside, rfl⟩
    exact ⟨e, owner, found, inside, rfl⟩
  · rintro ⟨e, owner, found, inside, key⟩
    exact ⟨e, o.position, found, owner, inside, by rw [← key]⟩

theorem pairwise_position_ownersOf (d : Destination μ ε) (path fields : List String) :
    ((ownersOf d path fields).map Owner.position).Pairwise (· < ·) := by
  have positions : d.items.zipIdx.Pairwise fun a b => a.2 < b.2 := by
    rw [← List.pairwise_map (f := Prod.snd) (R := (· < ·)), List.zipIdx_map_snd]
    exact List.pairwise_lt_range'
  rw [List.pairwise_map]
  refine positions.filterMap _ fun a a' less o ho o' ho' => ?_
  obtain ⟨owner, -, rfl⟩ := Option.map_eq_some_iff.mp ho
  obtain ⟨owner', -, rfl⟩ := Option.map_eq_some_iff.mp ho'
  exact less

theorem filterMap_key_ownersOf (d : Destination μ ε) (path fields : List String) :
    (ownersOf d path fields).filterMap Owner.key =
      d.items.filterMap fun e => (d.inside? path e).bind (OwnerKey.ofEntity? fields) := by
  have items : d.items = d.items.zipIdx.map Prod.fst := (List.zipIdx_map_fst 0 _).symm
  conv => rhs; rw [items]
  rw [ownersOf, List.filterMap_filterMap, List.filterMap_map]
  congr 1
  funext ⟨e, position⟩
  dsimp only [Function.comp]
  cases d.inside? path e <;> rfl

end

/-! ## The query for the related rows -/

theorem WhereItem.ofCalls_map_cond {α : Type} (connective : Connective) (template : String)
    (args : α → List Value) (xs : List α) :
    ofCalls (xs.map fun x => .cond connective template (args x)) =
      xs.map fun x => .cond ⟨connective, .template template (args x)⟩ := by
  induction xs with
  | nil => rfl
  | cons x rest ih =>
    rw [List.map_cons, ofCalls, ofCall, ih]
    rfl

theorem WhereItem.ofCall_group_map {α : Type} (template : String) (args : α → List Value)
    {xs : List α} (h : xs ≠ []) :
    ofCall (.group "AND" (xs.map fun x => .cond .or template (args x))) =
      [.group .and (xs.map fun x => .cond ⟨.or, .template template (args x)⟩)] := by
  have word : Connective.ofWord "AND" = .and := by decide
  obtain ⟨x, rest, rfl⟩ := List.exists_cons_of_ne_nil h
  rw [ofCall, ofCalls_map_cond, word]
  rfl

namespace JoinTree

/-- The condition by which rows behind a junction table are asked for. -/
def junctionConditions (through : Junction) (keys : List OwnerKey) : List WhereItem :=
  [.cond ⟨.and, .template "? IN (?)"
    [.ident (through.table ++ "." ++ through.baseColumn), .list (keys.flatMap (·.values))]⟩]

/-- The conditions by which rows of the related table are asked for: the values of all keys in one
list, or one condition for each key. -/
def directConditions (j : Join) (keys : List OwnerKey) : List WhereItem :=
  match keyColumns j with
  | [column] =>
    [.cond ⟨.and, .template "?TableAlias.? IN (?)"
      [.ident column, .list (keys.flatMap (·.values))]⟩]
  | columns =>
    [.group .and (keys.map fun k =>
      .cond ⟨.or, .template (" AND ".intercalate (columns.map fun _ => "?TableAlias.? = ?"))
        ((columns.zip k.values).flatMap fun (c, v) => [.ident c, v])⟩)]

def keyConditions (j : Join) (keys : List OwnerKey) : List WhereItem :=
  match j.relation.kind, j.relation.junction with
  | .manyToMany, some through => junctionConditions through keys
  | _, _ => directConditions j keys

variable {schema : Schema} {s : Select} {j : Join} {keys : List OwnerKey}

theorem wheres_junctionCalls (through : Junction) :
    ((Query.mk s [] []).calls schema (junctionCalls j through keys)).select.wheres =
      s.wheres ++ junctionConditions through keys := by
  rw [junctionCalls]
  cases j.columns <;>
    simp [junctionConditions, Query.calls, Query.call, Query.mapSelect, Query.callSelect,
      Query.select, Select.addWhere, Select.addJoinCondition]

theorem wheres_directCalls (hkeys : keys ≠ []) :
    ((Query.mk s [] []).calls schema (directCalls j keys)).select.wheres =
      s.wheres ++ directConditions j keys := by
  unfold directCalls directConditions
  generalize keyColumns j = columns
  -- One column takes a list; none and several take one condition for each key.
  rcases columns with _ | ⟨c, _ | ⟨c', cs⟩⟩ <;> cases j.columns <;>
    simp only [List.nil_append, List.cons_append, Query.calls, Query.call, Query.mapSelect,
      Query.callSelect, Query.select, Select.addWhere, WhereItem.ofCall_group_map _ _ hkeys]

/-- The junction table that related rows come through, if they do. -/
def through? (j : Join) : Option Junction :=
  match j.relation.kind, j.relation.junction with
  | .manyToMany, some through => some through
  | _, _ => none

theorem keyConditions_of_some {through : Junction} (routed : through? j = some through) :
    keyConditions j keys = junctionConditions through keys := by
  unfold through? at routed
  split at routed
  · rename_i through' kind junction
    cases routed
    rw [keyConditions, kind, junction]
  · cases routed

theorem keyConditions_of_none (direct : through? j = none) :
    keyConditions j keys = directConditions j keys := by
  unfold through? at direct
  split at direct
  · cases direct
  · rename_i other
    unfold keyConditions
    split
    · rename_i through kind junction
      exact (other through kind junction).elim
    · rfl

/-- The query for related rows comes of the calls for a junction table or of those without one. -/
theorem relatedQuery_cases {t : JoinTree} {q : Query} {columns : List String}
    (h : t.relatedQuery schema keys = .ok (q, columns)) :
    ∃ relations calls,
      q = ((Query.mk { table := some t.join.target, relations } [] []).calls schema calls).mapSelect
        (fun s => { s with wheres := s.wheres ++ t.join.on.map .cond }) ∧
      ((∃ through, through? t.join = some through ∧ calls = junctionCalls t.join through keys ∧
          columns = [ownerKeyColumn]) ∨
        through? t.join = none ∧ calls = directCalls t.join keys ∧
          columns = keyColumns t.join) := by
  unfold relatedQuery at h
  split at h
  · cases h
  · dsimp only at h
    split at h
    · rename_i through kind junction
      cases h
      exact ⟨_, _, rfl, .inl ⟨through, by rw [through?, kind, junction], rfl, rfl⟩⟩
    · rename_i other
      cases h
      refine ⟨_, _, rfl, .inr ⟨?_, rfl, rfl⟩⟩
      unfold through?
      split
      · rename_i through kind junction
        exact (other through kind junction).elim
      · rfl

/-- The rows are asked for by the keys, in their order, and by the join's own conditions. -/
theorem wheres_relatedQuery {t : JoinTree} {q : Query} {columns : List String} (hkeys : keys ≠ [])
    (h : t.relatedQuery schema keys = .ok (q, columns)) :
    q.select.wheres = keyConditions t.join keys ++ t.join.on.map .cond := by
  obtain ⟨relations, calls, rfl, ⟨through, routed, rfl, -⟩ | ⟨direct, rfl, -⟩⟩ :=
    relatedQuery_cases h
  · simp [wheres_junctionCalls, keyConditions_of_some routed]
  · simp [wheres_directCalls hkeys, keyConditions_of_none direct]

end JoinTree

/-! ## Shares -/

section

variable {μ ε : Type} [EntityType ε μ]

section

variable (d : Destination μ ε) (t : JoinTree)

/-- The keys of the owners of a relation, in the order of the entities. -/
def JoinTree.ownerKeys : List OwnerKey :=
  d.items.filterMap fun e =>
    (d.inside? t.join.path.dropLast e).bind (OwnerKey.ofEntity? t.join.relation.baseFields)

/-- The rows that carry the key of an owner, in order. An owner without a key has none. -/
def JoinTree.ownRows (columns : List String) (rows : List Row) (owner : ε) : List Row :=
  rows.filter fun row => (OwnerKey.ofEntity? t.join.relation.baseFields owner).any fun k =>
    OwnerKey.ofRow? columns row == some k.text

/-- Every owner is handed its own rows once, in the order of the entities. -/
structure JoinTree.SharesOut (columns : List String) (rows : List Row)
    (handed : List Conversation.Attachment) : Prop where
  ordered : handed.Pairwise (·.entity < ·.entity)
  each : ∀ a, a ∈ handed ↔ ∃ i e owner, d.items[i]? = some e ∧
    d.inside? t.join.path.dropLast e = some owner ∧
    a = ⟨i, t.join.path.dropLast, t.join.relation.name, t.ownRows columns rows owner⟩

/-- An owner with its own rows, and the error if it fails to take them. -/
def JoinTree.handedTo (columns : List String) (rows : List Row) : Hook ε := fun owner =>
  EntityType.attach t.join.relation.name (t.ownRows columns rows owner) owner

/-- No owner of a relation fails to take its own rows. Plain entities are not asked. -/
def JoinTree.Accepted (columns : List String) (rows : List Row) : Prop :=
  ∀ m es, d = .entities m false es → ∀ e ∈ es, ∀ owner,
    EntityType.at? t.join.path.dropLast e = some owner →
    (t.handedTo columns rows owner).2 = none

/-- What has become of an entity, which has an owner inside or has none. -/
def JoinTree.Receives (columns : List String) (rows : List Row) (e e' : ε) : Prop :=
  match EntityType.at? t.join.path.dropLast e with
  | some owner =>
    e' = EntityType.putAt (t.handedTo columns rows owner).1 t.join.path.dropLast e
  | none => e' = e

/-- The destination after all owners have received their rows, which plain entities do not keep. -/
def JoinTree.Delivered (columns : List String) (rows : List Row) (d' : Destination μ ε) : Prop :=
  match d with
  | .entities m false es => ∃ es', d' = .entities m false es' ∧ es'.length = es.length ∧
      ∀ (i : Nat) e e', es[i]? = some e → es'[i]? = some e' → t.Receives columns rows e e'
  | _ => d' = d

end

theorem rowsOf_ofEntity? (t : JoinTree) (columns : List String) (rows : List Row) (owner : ε) :
    rowsOf columns rows (OwnerKey.ofEntity? t.join.relation.baseFields owner) =
      t.ownRows columns rows owner := by
  unfold JoinTree.ownRows
  cases OwnerKey.ofEntity? t.join.relation.baseFields owner with
  | none => simp [rowsOf]
  | some k => simp [rowsOf]

theorem HandsOut.sharesOut {d : Destination μ ε} {t : JoinTree} {columns : List String}
    {rows : List Row} {marks : List Conversation.Mark}
    (h : HandsOut t.join.path.dropLast t.join.relation.name columns rows
      (ownersOf d t.join.path.dropLast t.join.relation.baseFields) marks) :
    t.SharesOut d columns rows (Conversation.attachments marks) := by
  rw [h.handed]
  refine ⟨?_, fun a => ?_⟩
  · have positions :=
      pairwise_position_ownersOf d t.join.path.dropLast t.join.relation.baseFields
    rw [List.pairwise_map] at positions ⊢
    exact positions
  · simp only [List.mem_map, mem_ownersOf]
    constructor
    · rintro ⟨o, ⟨e, owner, found, inside, key⟩, rfl⟩
      refine ⟨o.position, e, owner, found, inside, ?_⟩
      rw [Owner.attachment, key, rowsOf_ofEntity?]
    · rintro ⟨i, e, owner, found, inside, rfl⟩
      refine ⟨⟨i, OwnerKey.ofEntity? t.join.relation.baseFields owner⟩,
        ⟨e, owner, found, inside, rfl⟩, ?_⟩
      rw [Owner.attachment, rowsOf_ofEntity?]

theorem statements_attachAll {answer : String → Option Nat → Option Answer} {path : List String}
    {relation : String} {columns : List String} {rows : List Row} (owners : List Owner)
    (d : Destination μ ε) :
    Conversation.statements
      ((attachAll path relation columns rows owners d).respond answer).1 = [] := by
  induction owners generalizing d with
  | nil => rfl
  | cons o rest ih =>
    rw [attachAll, Conversation.respond_effect]
    dsimp only
    split
    · exact ih _
    · rfl

/-- Each entity has received the rows of its owner, or has none and is left alone. -/
theorem GivesAll.receives {t : JoinTree} {m : μ} {es es' : List ε} {columns : List String}
    {rows : List Row}
    (h : GivesAll t.join.path.dropLast t.join.relation.name columns rows
      (ownersOf (.entities m false es) t.join.path.dropLast t.join.relation.baseFields) es es')
    {i : Nat} {e e' : ε} (before : es[i]? = some e) (after : es'[i]? = some e') :
    t.Receives columns rows e e' := by
  unfold JoinTree.Receives
  split
  · rename_i owner inside
    obtain ⟨old, owner', was, within, now⟩ :=
      h.given ⟨i, OwnerKey.ofEntity? t.join.relation.baseFields owner⟩
        (mem_ownersOf.mpr ⟨e, owner, before, inside, rfl⟩)
    obtain rfl := Option.some.inj (before.symm.trans was)
    obtain rfl := Option.some.inj (inside.symm.trans within)
    rw [rowsOf_ofEntity?] at now
    exact Option.some.inj (after.symm.trans now)
  · rename_i outside
    have unchanged := h.untouched i fun o ho same => by
      obtain ⟨old, owner, was, inside, -⟩ := mem_ownersOf.mp ho
      rw [same] at was
      obtain rfl := Option.some.inj (before.symm.trans was)
      cases outside.symm.trans inside
    exact Option.some.inj (after.symm.trans (unchanged.trans before))

/-- All owners receive their rows, unless one fails to take them. -/
theorem respond_attachAll_ownersOf (answer : String → Option Nat → Option Answer) {t : JoinTree}
    {d : Destination μ ε} {columns : List String} {rows : List Row}
    (accepted : t.Accepted d columns rows) :
    ∃ marks d', (attachAll t.join.path.dropLast t.join.relation.name columns rows
        (ownersOf d t.join.path.dropLast t.join.relation.baseFields) d).respond answer =
        (marks, some (d', none)) ∧
      t.SharesOut d columns rows (Conversation.attachments marks) ∧
      t.Delivered d columns rows d' := by
  have unchanged (fixed : ∀ f position, d.change f position = (d, none))
      (same : t.Delivered d columns rows d) :
      ∃ marks d', (attachAll t.join.path.dropLast t.join.relation.name columns rows
          (ownersOf d t.join.path.dropLast t.join.relation.baseFields) d).respond answer =
          (marks, some (d', none)) ∧
        t.SharesOut d columns rows (Conversation.attachments marks) ∧
        t.Delivered d columns rows d' := by
    obtain ⟨marks, responds, handsOut⟩ := respond_attachAll_of_fixed answer fixed _
    exact ⟨marks, d, responds, handsOut.sharesOut, same⟩
  cases d with
  | maps maps => exact unchanged (fun _ _ => rfl) rfl
  | entities m plain es =>
    cases plain with
    | true => exact unchanged (fun _ _ => rfl) rfl
    | false =>
      have apart := (pairwise_position_ownersOf (.entities m false es) t.join.path.dropLast
        t.join.relation.baseFields).imp Nat.ne_of_lt
      obtain ⟨marks, es', responds, handsOut, gives⟩ := respond_attachAll answer apart
        fun o ho => by
          obtain ⟨e, owner, found, inside, key⟩ := mem_ownersOf.mp ho
          rw [key, rowsOf_ofEntity?]
          exact ⟨e, owner, found, inside,
            accepted m es rfl e (List.mem_of_getElem? found) owner inside⟩
      exact ⟨marks, _, responds, handsOut.sharesOut, es', rfl, gives.length,
        fun i e e' before after => gives.receives before after⟩

end

/-! ## Asking and sharing out -/

/-- The statement that asks for the rows of some keys, and the columns that carry a key in them. -/
structure JoinTree.Asks (schema : Schema) (session : Session) (t : JoinTree)
    (keys : List OwnerKey) (q : Query) (columns : List String) (sql : String) : Prop where
  keyed : keys ≠ []
  built : t.relatedQuery schema keys = .ok (q, columns)
  rendered : q.sql session.dialect .rows = .ok sql

section

variable {schema : Schema} {session : Session} {answer : String → Option Nat → Option Answer}
  {t : JoinTree} {keys : List OwnerKey}

theorem fetchRelated_of_asks {q : Query} {columns : List String} {sql : String}
    (h : t.Asks schema session keys q columns sql) :
    fetchRelated schema session t keys =
      (session.query sql).bind fun r => .done (r.map (·, columns)) := by
  obtain ⟨k, rest, rfl⟩ := List.exists_cons_of_ne_nil h.keyed
  simp only [fetchRelated, h.built, h.rendered]

theorem respond_fetchRelated_of_some {q : Query} {columns : List String} {sql : String}
    {a : Answer} (h : t.Asks schema session keys q columns sql)
    (answered : answer sql session.config.queryTimeout = some a) :
    (fetchRelated schema session t keys).respond answer =
      ([.sent sql, .did (.log (session.report sql (·.rows.length) a))],
        some (a.result.map fun reply => (reply.rows, columns))) := by
  rw [fetchRelated_of_asks h,
    Conversation.respond_bind_of_some _ _ (session.respond_query_of_some sql answered)]
  cases a.result <;> rfl

theorem respond_fetchRelated_of_none {q : Query} {columns : List String} {sql : String}
    (h : t.Asks schema session keys q columns sql)
    (silent : answer sql session.config.queryTimeout = none) :
    (fetchRelated schema session t keys).respond answer = ([.sent sql], none) := by
  rw [fetchRelated_of_asks h,
    Conversation.respond_bind_of_none _ _ (session.respond_query_of_none sql silent)]

theorem fetchRelated_of_unbuilt {e : BuildError} (hkeys : keys ≠ [])
    (h : t.relatedQuery schema keys = .error e) :
    fetchRelated schema session t keys = .done (.error (.render (.build e))) := by
  obtain ⟨k, rest, rfl⟩ := List.exists_cons_of_ne_nil hkeys
  simp only [fetchRelated, h]

theorem fetchRelated_of_unrendered {q : Query} {columns : List String} {e : RenderError}
    (hkeys : keys ≠ []) (built : t.relatedQuery schema keys = .ok (q, columns))
    (h : q.sql session.dialect .rows = .error e) :
    fetchRelated schema session t keys = .done (.error (.render e)) := by
  obtain ⟨k, rest, rfl⟩ := List.exists_cons_of_ne_nil hkeys
  simp only [fetchRelated, built, h]

end

section

variable {μ ε : Type} [EntityType ε μ]

/-- The keys that a relation is loaded by. -/
def JoinTree.askedKeys (t : JoinTree) (d : Destination μ ε) : List OwnerKey :=
  OwnerKey.distinct [] (t.ownerKeys d)

/-- What loading a relation does, whatever the database answers. -/
structure JoinTree.Loading (schema : Schema) (session : Session)
    (answer : String → Option Nat → Option Answer) (t : JoinTree) (d : Destination μ ε)
    (keys : List OwnerKey)
    (run : List Conversation.Mark × Option (Destination μ ε × Option RunError)) : Prop where
  /-- Where no owner has a key nothing is asked. -/
  unasked : t.ownerKeys d = [] → Conversation.statements run.1 = []
  keyless : t.ownerKeys d = [] → t.Accepted d [] [] → ∃ d', run.2 = some (d', none) ∧
    t.SharesOut d [] [] (Conversation.attachments run.1) ∧ t.Delivered d [] [] d'
  /-- There is one statement, by all the keys, and no other. -/
  asked : ∀ q columns sql, t.Asks schema session keys q columns sql →
    Conversation.statements run.1 = [sql] ∧
    q.select.wheres = keyConditions t.join keys ++ t.join.on.map .cond
  /-- Every owner receives the rows of the answer that carry its key. -/
  loaded : ∀ q columns sql a reply, t.Asks schema session keys q columns sql →
    answer sql session.config.queryTimeout = some a → a.result = .ok reply →
    t.Accepted d columns reply.rows → ∃ d', run.2 = some (d', none) ∧
      t.SharesOut d columns reply.rows (Conversation.attachments run.1) ∧
      t.Delivered d columns reply.rows d'
  /-- Nobody receives anything if there is no answer, or an error is. -/
  failed : ∀ q columns sql a e, t.Asks schema session keys q columns sql →
    answer sql session.config.queryTimeout = some a → a.result = .error e →
    Conversation.attachments run.1 = [] ∧ run.2 = some (d, some e)
  unanswered : ∀ q columns sql, t.Asks schema session keys q columns sql →
    answer sql session.config.queryTimeout = none →
    Conversation.attachments run.1 = [] ∧ run.2 = none
  /-- Nor if there is no statement to ask by. -/
  unbuilt : ∀ e, keys ≠ [] → t.relatedQuery schema keys = .error e →
    Conversation.statements run.1 = [] ∧ Conversation.attachments run.1 = [] ∧
    run.2 = some (d, some (.render (.build e)))
  unrendered : ∀ q columns e, keys ≠ [] → t.relatedQuery schema keys = .ok (q, columns) →
    q.sql session.dialect .rows = .error e →
    Conversation.statements run.1 = [] ∧ Conversation.attachments run.1 = [] ∧
    run.2 = some (d, some (.render e))

variable {t : JoinTree}

/-- Loading notes what it is about, asks, and shares out what it is answered. -/
theorem loadRelation_eq (flat : JoinTree.toManyAll t.children = []) (schema : Schema)
    (session : Session) (d : Destination μ ε) :
    ∃ e, loadRelation schema session t d = .effect (.log e)
      ((fetchRelated schema session t (t.askedKeys d)).bind fun
        | .error e => .done (d, some e)
        | .ok (rows, columns) =>
          attachAll t.join.path.dropLast t.join.relation.name columns rows
            (ownersOf d t.join.path.dropLast t.join.relation.baseFields) d) := by
  unfold loadRelation JoinTree.askedKeys JoinTree.ownerKeys
  rw [flat, ← filterMap_key_ownersOf]
  exact ⟨_, rfl⟩

/-- Loading a relation asks once for the rows of all owners, and hands every owner its own. -/
theorem loadRelation_loading (flat : JoinTree.toManyAll t.children = []) (schema : Schema)
    (session : Session) (answer : String → Option Nat → Option Answer) (d : Destination μ ε) :
    OwnerKey.FirstSeen (t.ownerKeys d) (t.askedKeys d) ∧
      t.Loading schema session answer d (t.askedKeys d)
        ((loadRelation schema session t d).respond answer) := by
  have firstSeen := OwnerKey.firstSeen_distinct (t.ownerKeys d)
  refine ⟨firstSeen, ?_⟩
  obtain ⟨e, loads⟩ := loadRelation_eq flat schema session d
  have keyless := firstSeen.eq_nil_iff.mpr
  rw [loads, Conversation.respond_effect]
  unfold JoinTree.askedKeys
  generalize OwnerKey.distinct [] (t.ownerKeys d) = keys at keyless ⊢
  refine
    { unasked := fun none => ?unasked
      keyless := fun none accepted => ?keyless
      asked := fun q columns sql asks =>
        ⟨?asked, JoinTree.wheres_relatedQuery asks.keyed asks.built⟩
      loaded := fun q columns sql a reply asks answered ok accepted => ?loaded
      failed := fun q columns sql a e asks answered error => ?failed
      unanswered := fun q columns sql asks silent => ?unanswered
      unbuilt := fun e keyed error => ?unbuilt
      unrendered := fun q columns e keyed built error => ?unrendered }
  case unasked =>
    rw [keyless none, fetchRelated, Conversation.bind_done]
    exact statements_attachAll ..
  case keyless =>
    rw [keyless none, fetchRelated, Conversation.bind_done]
    obtain ⟨marks, d', responds, sharesOut, delivered⟩ :=
      respond_attachAll_ownersOf answer accepted
    dsimp only
    rw [responds]
    exact ⟨d', rfl, sharesOut, delivered⟩
  case asked =>
    cases answered : answer sql session.config.queryTimeout with
    | none =>
      rw [Conversation.respond_bind_of_none _ _ (respond_fetchRelated_of_none asks answered)]
      rfl
    | some a =>
      rw [Conversation.respond_bind_of_some _ _ (respond_fetchRelated_of_some asks answered)]
      cases a.result with
      | error e => rfl
      | ok reply => exact congrArg (sql :: ·) (statements_attachAll ..)
  case loaded =>
    rw [Conversation.respond_bind_of_some _ _ (respond_fetchRelated_of_some asks answered), ok]
    obtain ⟨marks, d', responds, sharesOut, delivered⟩ :=
      respond_attachAll_ownersOf answer accepted
    dsimp only [Except.map]
    rw [responds]
    exact ⟨d', rfl, sharesOut, delivered⟩
  case failed =>
    rw [Conversation.respond_bind_of_some _ _ (respond_fetchRelated_of_some asks answered), error]
    exact ⟨rfl, rfl⟩
  case unanswered =>
    rw [Conversation.respond_bind_of_none _ _ (respond_fetchRelated_of_none asks silent)]
    exact ⟨rfl, rfl⟩
  case unbuilt =>
    rw [fetchRelated_of_unbuilt keyed error]
    exact ⟨rfl, rfl, rfl⟩
  case unrendered =>
    rw [fetchRelated_of_unrendered keyed built error]
    exact ⟨rfl, rfl, rfl⟩

end

/-- The books of authors. -/
def JoinTree.authorsBooks : JoinTree :=
  .node
    { relation := { name := "Books", kind := .hasMany, target := 0
                    baseFields := ["id"], joinFields := ["author_id"] }
      base := default
      baseAlias := "author"
      target := { name := "books", aliasName := "book"
                  fields := [{ name := "AuthorID", column := "author_id" }] }
      aliasName := "books"
      path := ["Books"] }
    []

def Entity.author (id : Value) : Entity :=
  .mk {} [("id", id)] [] [] 0

/-- Four authors, of whom two are the same and one is not stored yet. -/
def Destination.authors : Destination :=
  .entities default false
    [.author (.text "1"), .author .null, .author (.text "2"), .author (.text "1")]

theorem loadRelation_authorsBooks :
    let rows : List Row := [⟨["author_id"], [.text "1"]⟩, ⟨["author_id"], [.null]⟩]
    let run := (loadRelation {} {} .authorsBooks .authors).respond fun _ _ =>
      some { result := .ok { rows := rows } }
    Conversation.statements run.1 =
      ["SELECT \"book\".\"author_id\" FROM \"books\" AS \"book\" " ++
        "WHERE (\"book\".\"author_id\" IN ('1', '2'))"] ∧
      ∃ d', run.2 = some (d', none) ∧
        JoinTree.authorsBooks.SharesOut .authors ["author_id"] rows
          (Conversation.attachments run.1) ∧
        JoinTree.authorsBooks.Delivered .authors ["author_id"] rows d' := by
  intro rows run
  have asked : (JoinTree.authorsBooks.relatedQuery {}
      (JoinTree.authorsBooks.askedKeys .authors)).toOption.map (fun r =>
        (r.2, (r.1.sql .postgres .rows).toOption)) = some (["author_id"], some
        ("SELECT \"book\".\"author_id\" FROM \"books\" AS \"book\" " ++
          "WHERE (\"book\".\"author_id\" IN ('1', '2'))")) := by
    decide +kernel
  obtain ⟨⟨q, columns⟩, built, rest⟩ := Option.map_eq_some_iff.mp asked
  obtain ⟨rfl, rendered⟩ := Prod.mk.inj rest
  have asks : JoinTree.authorsBooks.Asks {} {} (JoinTree.authorsBooks.askedKeys .authors) q
      ["author_id"] _ :=
    ⟨by decide, Except.eq_ok_of_toOption built, Except.eq_ok_of_toOption rendered⟩
  have accepted : JoinTree.authorsBooks.Accepted .authors ["author_id"] rows := by
    intro m es same e he owner inside
    obtain rfl : e = owner := Option.some.inj inside
    have willing : ∀ e ∈ Destination.authors.items,
        ((JoinTree.authorsBooks.handedTo ["author_id"] rows e).2).isNone := by decide
    cases same
    exact Option.isNone_iff_eq_none.mp (willing e he)
  obtain ⟨-, loading⟩ := loadRelation_loading (t := .authorsBooks) rfl {} {}
    (fun _ _ => some { result := .ok { rows := rows } }) .authors
  exact ⟨(loading.asked _ _ _ asks).1, loading.loaded _ _ _ _ _ asks rfl rfl accepted⟩

end SqlCompose
