import SqlCompose.Proofs.Loading

/-!
# Keys of several fields

A key of several fields is one text, with a separator between the texts of the fields. Where such a
text has the separator in it, it falls apart there as the key does between its fields, so that keys
are told apart by their segments and by nothing else. The main statement says what this means for
loading a relation: who is handed a row, and which keys are asked for.
-/

namespace SqlCompose

namespace OwnerKey

/-! ## Texts and their segments -/

/-- The character between the texts of a key. -/
def separator : Char := '\x1f'

/-- What key texts fall into at the separators in them. -/
def textSegments (texts : List String) : List (List Char) :=
  texts.flatMap (·.toList.splitOn separator)

section

variable {a b : List String}

theorem splitOn_intercalate_separator (nonempty : a ≠ []) :
    ("\x1f".intercalate a).toList.splitOn separator = textSegments a := by
  induction a with
  | nil => exact absurd rfl nonempty
  | cons text rest ih =>
    cases rest with
    | nil => simp [textSegments]
    | cons next rest =>
      rw [String.intercalate_cons_cons, String.toList_append, String.toList_append,
        show "\x1f".toList = [separator] from rfl, List.append_assoc, List.singleton_append,
        List.splitOn_append_cons_self, ih (List.cons_ne_nil next rest)]
      rfl

/-- Joined texts are told apart by their segments. -/
theorem intercalate_eq_iff (ha : a ≠ []) (hb : b ≠ []) :
    "\x1f".intercalate a = "\x1f".intercalate b ↔ textSegments a = textSegments b := by
  constructor
  · intro same
    rw [← splitOn_intercalate_separator ha, same, splitOn_intercalate_separator hb]
  · intro same
    rw [← splitOn_intercalate_separator ha, ← splitOn_intercalate_separator hb] at same
    have joined := congrArg [separator].intercalate same
    rwa [List.intercalate_splitOn, List.intercalate_splitOn, String.toList_inj] at joined

theorem segments_of_plain (plain : ∀ s ∈ a, separator ∉ s.toList) :
    textSegments a = a.map String.toList := by
  induction a with
  | nil => rfl
  | cons s rest ih =>
    rw [List.forall_mem_cons] at plain
    have later : rest.flatMap (·.toList.splitOn separator) = rest.map String.toList := ih plain.2
    rw [textSegments, List.flatMap_cons, List.splitOn_eq_singleton plain.1, later]
    rfl

/-- Texts without the separator are told apart by their segments. -/
theorem segments_eq_iff (ha : ∀ s ∈ a, separator ∉ s.toList) (hb : ∀ s ∈ b, separator ∉ s.toList) :
    textSegments a = textSegments b ↔ a = b := by
  rw [segments_of_plain ha, segments_of_plain hb]
  exact List.map_inj_right fun s t => String.toList_inj.mp

end

/-! ## Key texts -/

/-- The texts of the parts of a key, unless one of them has none. -/
def partTexts? (parts : List (Option String)) : Option (List String) :=
  parts.mapM id

theorem partTexts?_ne_nil {parts : List (Option String)} {texts : List String}
    (nonempty : parts ≠ []) (h : partTexts? parts = some texts) : texts ≠ [] := by
  obtain ⟨part, rest, rfl⟩ := List.exists_cons_of_ne_nil nonempty
  simp only [partTexts?, List.mapM_cons, id_eq, Option.bind_eq_bind, Option.pure_def,
    Option.bind_eq_some_iff] at h
  obtain ⟨text, -, later, -, same⟩ := h
  cases same
  exact List.cons_ne_nil text later

section

variable {μ ε : Type} [EntityType ε μ]

/-- The key texts of an entity's fields. -/
def entityTexts? (fields : List String) (e : ε) : Option (List String) :=
  partTexts? (fields.map fun f => (EntityType.value e f).key?)

/-- The key texts that a row carries. -/
def rowTexts? (columns : List String) (row : Row) : Option (List String) :=
  partTexts? (columns.map fun c => (row.value? c).bind Value.key?)

/-- The key texts of the values that are asked for. -/
def texts? (k : OwnerKey) : Option (List String) :=
  partTexts? (k.values.map Value.key?)

theorem ofRow?_eq_some_iff {columns : List String} {row : Row} {text : String} :
    ofRow? columns row = some text ↔
      ∃ texts, rowTexts? columns row = some texts ∧ "\x1f".intercalate texts = text :=
  Option.map_eq_some_iff

theorem ofEntity?_eq_some_iff {fields : List String} {e : ε} {k : OwnerKey} :
    ofEntity? fields e = some k ↔ ∃ texts, entityTexts? fields e = some texts ∧
      k = ⟨"\x1f".intercalate texts, fields.map (EntityType.value e)⟩ := by
  have parts : (fields.map (EntityType.value e)).map Value.key? =
      fields.map fun f => (EntityType.value e f).key? := by
    rw [List.map_map]
    rfl
  simp only [ofEntity?, joined?, parts, Option.map_map, Option.map_eq_some_iff, Function.comp]
  exact exists_congr fun texts => and_congr_right fun _ => eq_comm

theorem texts?_ofEntity? {fields : List String} {e : ε} {k : OwnerKey}
    (h : ofEntity? fields e = some k) : k.texts? = entityTexts? fields e := by
  obtain ⟨texts, -, rfl⟩ := ofEntity?_eq_some_iff.mp h
  rw [OwnerKey.texts?, entityTexts?, List.map_map]
  rfl

end

end OwnerKey

/-! ## Who is told apart -/

namespace JoinTree

open OwnerKey

section

variable {μ ε : Type} [EntityType ε μ]

section

variable (t : JoinTree) (d : Destination μ ε) (columns : List String) (rows : List Row)

/-- The key texts of the owners of a relation, in the order of the entities. -/
def ownersTexts : List (List String) :=
  d.items.filterMap fun e =>
    (d.inside? t.join.path.dropLast e).bind (entityTexts? t.join.relation.baseFields)

/-- Rows are handed to the owners whose key texts are the same as theirs, in some sense, and the
keys that are asked for have every owner's among them. -/
structure ToldApart (same : List String → List String → Prop) (keys : List OwnerKey)
    (handed : List Conversation.Attachment) : Prop where
  handed : ∀ i e owner, d.items[i]? = some e → d.inside? t.join.path.dropLast e = some owner →
    ∃ own, ⟨i, t.join.path.dropLast, t.join.relation.name, own⟩ ∈ handed ∧
      ∀ row, row ∈ own ↔ row ∈ rows ∧ ∃ ks rs,
        entityTexts? t.join.relation.baseFields owner = some ks ∧
        rowTexts? columns row = some rs ∧ same ks rs
  asked : ∀ ks ∈ t.ownersTexts d, ∃ k ∈ keys, ∃ ks', k.texts? = some ks' ∧ same ks ks'

/-- No key texts of an owner have the segments of other ones, be they another owner's or a row's. -/
def Unmistakable : Prop :=
  ∀ ks ∈ t.ownersTexts d, ∀ ks' ∈ t.ownersTexts d ++ rows.filterMap (rowTexts? columns),
    textSegments ks = textSegments ks' → ks = ks'

end

section

variable {t : JoinTree} {d : Destination μ ε} {columns : List String} {rows : List Row}

/-- Without separators in them, no key texts are mistaken for other ones. -/
theorem unmistakable_of_plain
    (plain : ∀ texts ∈ t.ownersTexts d ++ rows.filterMap (rowTexts? columns),
      ∀ s ∈ texts, separator ∉ s.toList) :
    t.Unmistakable d columns rows := by
  intro ks hks ks' hks' same
  exact (segments_eq_iff (plain ks (List.mem_append_left _ hks)) (plain ks' hks')).mp same

theorem mem_ownersTexts {ks : List String} :
    ks ∈ t.ownersTexts d ↔ ∃ (i : Nat) (e owner : ε), d.items[i]? = some e ∧
      d.inside? t.join.path.dropLast e = some owner ∧
      entityTexts? t.join.relation.baseFields owner = some ks := by
  simp only [ownersTexts, List.mem_filterMap, Option.bind_eq_some_iff]
  constructor
  · rintro ⟨e, he, owner, inside, texts⟩
    obtain ⟨i, found⟩ := List.mem_iff_getElem?.mp he
    exact ⟨i, e, owner, found, inside, texts⟩
  · rintro ⟨i, e, owner, found, inside, texts⟩
    exact ⟨e, List.mem_of_getElem? found, owner, inside, texts⟩

/-- The key of an owner joins its key texts. -/
theorem exists_mem_ownerKeys {ks : List String} (h : ks ∈ t.ownersTexts d) :
    ∃ k ∈ t.ownerKeys d, k.text = "\x1f".intercalate ks := by
  simp only [ownersTexts, ownerKeys, List.mem_filterMap, Option.bind_eq_some_iff] at h ⊢
  obtain ⟨e, he, owner, inside, texts⟩ := h
  exact ⟨_, ⟨e, he, owner, inside, ofEntity?_eq_some_iff.mpr ⟨ks, texts, rfl⟩⟩, rfl⟩

theorem exists_mem_ownersTexts {k : OwnerKey} (h : k ∈ t.ownerKeys d) :
    ∃ ks ∈ t.ownersTexts d, k.texts? = some ks ∧ k.text = "\x1f".intercalate ks := by
  simp only [ownersTexts, ownerKeys, List.mem_filterMap, Option.bind_eq_some_iff] at h ⊢
  obtain ⟨e, he, owner, inside, key⟩ := h
  obtain ⟨ks, texts, rfl⟩ := ofEntity?_eq_some_iff.mp key
  exact ⟨ks, ⟨e, he, owner, inside, texts⟩, (texts?_ofEntity? key).trans texts, rfl⟩

theorem mem_ownerKeys_of_mem_askedKeys {k : OwnerKey} (h : k ∈ t.askedKeys d) :
    k ∈ t.ownerKeys d :=
  (distinct_sublist [] _).subset h

theorem eq_of_text_eq {k k' : OwnerKey} (hk : k ∈ t.askedKeys d) (hk' : k' ∈ t.askedKeys d)
    (same : k.text = k'.text) : k = k' := by
  have once := List.pairwise_map.mp (nodup_distinct [] (t.ownerKeys d))
  have alone : ∀ k ∈ t.askedKeys d, ∀ k' ∈ t.askedKeys d, k.text = k'.text → k = k' :=
    List.Pairwise.forall_of_forall_of_flip (fun _ _ _ => rfl)
      (once.imp fun other same => absurd same other)
      (once.imp fun other same => absurd same.symm other)
  exact alone k hk k' hk' same

section

variable (base : t.join.relation.baseFields ≠ [])

include base

theorem ne_nil_of_mem_ownersTexts {ks : List String} (h : ks ∈ t.ownersTexts d) : ks ≠ [] := by
  obtain ⟨i, e, owner, -, -, texts⟩ := mem_ownersTexts.mp h
  exact partTexts?_ne_nil (by simpa using base) texts

/-- Each owner is asked for, if only by another one's key texts of the same segments. -/
theorem exists_mem_askedKeys {ks : List String} (h : ks ∈ t.ownersTexts d) :
    ∃ k ∈ t.askedKeys d, ∃ ks' ∈ t.ownersTexts d, k.texts? = some ks' ∧
      textSegments ks = textSegments ks' := by
  obtain ⟨k, hk, text⟩ := exists_mem_ownerKeys h
  obtain ⟨first, kept, found⟩ := (firstSeen_distinct (t.ownerKeys d)).first k hk
  have same : first.text = k.text := by simpa using List.find?_some found
  obtain ⟨ks', hks', texts, text'⟩ := exists_mem_ownersTexts (mem_ownerKeys_of_mem_askedKeys kept)
  refine ⟨first, kept, ks', hks', texts, ?_⟩
  rw [← intercalate_eq_iff (ne_nil_of_mem_ownersTexts base h) (ne_nil_of_mem_ownersTexts base hks'),
    ← text, ← text', same]

/-- Keys of the same segments are not asked for twice. -/
theorem texts?_eq_of_mem_askedKeys {k k' : OwnerKey} {ks ks' : List String}
    (hk : k ∈ t.askedKeys d) (hk' : k' ∈ t.askedKeys d) (texts : k.texts? = some ks)
    (texts' : k'.texts? = some ks') (same : textSegments ks = textSegments ks') : ks = ks' := by
  obtain ⟨own, hown, ownTexts, text⟩ := exists_mem_ownersTexts (mem_ownerKeys_of_mem_askedKeys hk)
  obtain ⟨own', hown', ownTexts', text'⟩ :=
    exists_mem_ownersTexts (mem_ownerKeys_of_mem_askedKeys hk')
  obtain rfl := Option.some.inj (ownTexts.symm.trans texts)
  obtain rfl := Option.some.inj (ownTexts'.symm.trans texts')
  have joined : k.text = k'.text := by
    rw [text, text', intercalate_eq_iff (ne_nil_of_mem_ownersTexts base hown)
      (ne_nil_of_mem_ownersTexts base hown'), same]
  obtain rfl := eq_of_text_eq hk hk' joined
  exact Option.some.inj (texts.symm.trans texts')

variable (keyed : columns ≠ [])

include keyed

theorem mem_ownRows {owner : ε} {row : Row} :
    row ∈ t.ownRows columns rows owner ↔ row ∈ rows ∧ ∃ ks rs,
      entityTexts? t.join.relation.baseFields owner = some ks ∧
      rowTexts? columns row = some rs ∧ textSegments ks = textSegments rs := by
  rw [ownRows, List.mem_filter]
  refine and_congr_right fun _ => ?_
  rw [Option.any_eq_true]
  constructor
  · rintro ⟨k, key, carries⟩
    obtain ⟨ks, texts, rfl⟩ := ofEntity?_eq_some_iff.mp key
    obtain ⟨rs, rowTexts, same⟩ := ofRow?_eq_some_iff.mp (by simpa using carries)
    have hks := partTexts?_ne_nil (by simpa using base) texts
    have hrs := partTexts?_ne_nil (by simpa using keyed) rowTexts
    exact ⟨ks, rs, texts, rowTexts, (intercalate_eq_iff hks hrs).mp same.symm⟩
  · rintro ⟨ks, rs, texts, rowTexts, same⟩
    have hks := partTexts?_ne_nil (by simpa using base) texts
    have hrs := partTexts?_ne_nil (by simpa using keyed) rowTexts
    refine ⟨_, ofEntity?_eq_some_iff.mpr ⟨ks, texts, rfl⟩, ?_⟩
    have carries := ofRow?_eq_some_iff.mpr
      ⟨rs, rowTexts, ((intercalate_eq_iff hks hrs).mpr same).symm⟩
    simpa using carries

variable {handed : List Conversation.Attachment} (shares : t.SharesOut d columns rows handed)

include shares

/-- Sharing out by joined texts tells apart by segments. -/
theorem toldApart_segments :
    t.ToldApart d columns rows (textSegments · = textSegments ·) (t.askedKeys d) handed where
  handed i e owner found inside :=
    ⟨_, (shares.each _).mpr ⟨i, e, owner, found, inside, rfl⟩, fun _ => mem_ownRows base keyed⟩
  asked ks hks := by
    obtain ⟨k, hk, ks', -, texts, same⟩ := exists_mem_askedKeys base hks
    exact ⟨k, hk, ks', texts, same⟩

/-- The texts themselves are told apart just if none is mistaken for another one. -/
theorem toldApart_eq_iff :
    t.ToldApart d columns rows (· = ·) (t.askedKeys d) handed ↔
      t.Unmistakable d columns rows := by
  constructor
  · intro apart ks hks ks' hks' same
    rcases List.mem_append.mp hks' with owned | carried
    · obtain ⟨k, hk, own, texts, rfl⟩ := apart.asked ks hks
      obtain ⟨k', hk', own', texts', rfl⟩ := apart.asked ks' owned
      exact texts?_eq_of_mem_askedKeys base hk hk' texts texts' same
    · obtain ⟨row, hrow, rowTexts⟩ := List.mem_filterMap.mp carried
      obtain ⟨i, e, owner, found, inside, texts⟩ := mem_ownersTexts.mp hks
      obtain ⟨own, attached, only⟩ := apart.handed i e owner found inside
      have share : own = t.ownRows columns rows owner := by
        obtain ⟨i', e', owner', found', inside', attachment⟩ := (shares.each _).mp attached
        cases attachment
        obtain rfl := Option.some.inj (found.symm.trans found')
        obtain rfl := Option.some.inj (inside.symm.trans inside')
        rfl
      have own : row ∈ own := by
        rw [share, mem_ownRows base keyed]
        exact ⟨hrow, ks, ks', texts, rowTexts, same⟩
      obtain ⟨-, own, carried, texts', rowTexts', rfl⟩ := (only row).mp own
      obtain rfl := Option.some.inj (texts.symm.trans texts')
      exact Option.some.inj (rowTexts'.symm.trans rowTexts)
  · intro unmistakable
    refine ⟨fun i e owner found inside => ?_, fun ks hks => ?_⟩
    · refine ⟨_, (shares.each _).mpr ⟨i, e, owner, found, inside, rfl⟩, fun row => ?_⟩
      rw [mem_ownRows base keyed]
      refine and_congr_right fun hrow => exists_congr fun ks => exists_congr fun rs =>
        and_congr_right fun texts => and_congr_right fun rowTexts => ⟨fun same => ?_, congrArg _⟩
      exact unmistakable ks (mem_ownersTexts.mpr ⟨i, e, owner, found, inside, texts⟩) rs
        (List.mem_append_right _ (List.mem_filterMap.mpr ⟨row, hrow, rowTexts⟩)) same
    · obtain ⟨k, hk, ks', hks', texts, same⟩ := exists_mem_askedKeys base hks
      exact ⟨k, hk, ks', texts, unmistakable ks hks ks' (List.mem_append_left _ hks') same⟩

end

end

/-! ## Loading -/

theorem columns_ne_nil {schema : Schema} {t : JoinTree} {keys : List OwnerKey} {q : Query}
    {columns : List String} (built : t.relatedQuery schema keys = .ok (q, columns))
    (joined : t.join.relation.joinFields ≠ []) : columns ≠ [] := by
  obtain ⟨relations, calls, -, ⟨through, -, -, rfl⟩ | ⟨-, -, rfl⟩⟩ := relatedQuery_cases built
  · exact List.cons_ne_nil _ _
  · simpa [keyColumns] using joined

/-- Loading a relation tells rows and owners apart by the segments of their key texts. -/
theorem loadRelation_toldApart {t : JoinTree} (flat : toManyAll t.children = [])
    (base : t.join.relation.baseFields ≠ []) (joined : t.join.relation.joinFields ≠ [])
    {schema : Schema} {session : Session} (answer : String → Option Nat → Option Answer)
    {d : Destination μ ε} {q : Query} {columns : List String} {sql : String} {a : Answer}
    {reply : Reply} (accepted : t.Accepted d columns reply.rows)
    (asks : t.Asks schema session (t.askedKeys d) q columns sql)
    (answered : answer sql session.config.queryTimeout = some a) (ok : a.result = .ok reply) :
    q.select.wheres = keyConditions t.join (t.askedKeys d) ++ t.join.on.map .cond ∧
      ∃ marks d', (loadRelation schema session t d).respond answer = (marks, some (d', none)) ∧
        Conversation.statements marks = [sql] ∧ t.Delivered d columns reply.rows d' ∧
        t.ToldApart d columns reply.rows (textSegments · = textSegments ·) (t.askedKeys d)
          (Conversation.attachments marks) ∧
        (t.ToldApart d columns reply.rows (· = ·) (t.askedKeys d)
          (Conversation.attachments marks) ↔ t.Unmistakable d columns reply.rows) := by
  refine ⟨wheres_relatedQuery asks.keyed asks.built, ?_⟩
  have keyed := columns_ne_nil asks.built joined
  obtain ⟨e, loads⟩ := loadRelation_eq flat schema session d
  obtain ⟨marks, d', responds, shares, delivered⟩ :=
    respond_attachAll_ownersOf answer accepted
  rw [loads, Conversation.respond_effect,
    Conversation.respond_bind_of_some _ _ (respond_fetchRelated_of_some asks answered), ok]
  dsimp only [Except.map]
  rw [responds]
  refine ⟨_, d', rfl, ?_, delivered, toldApart_segments base keyed shares,
    toldApart_eq_iff base keyed shares⟩
  have unasked : Conversation.statements ((attachAll t.join.path.dropLast t.join.relation.name
      columns reply.rows (ownersOf d t.join.path.dropLast t.join.relation.baseFields) d).respond
        answer).1 = [] := statements_attachAll ..
  rw [responds] at unasked
  exact congrArg (sql :: ·) unasked

end

/-- The lines of orders, which belong to them by shop and number. -/
def ordersLines : JoinTree :=
  .node
    { relation := { name := "Lines", kind := .hasMany, target := 0
                    baseFields := ["shop", "no"], joinFields := ["shop", "order_no"] }
      base := default
      baseAlias := "order"
      target := { name := "lines", aliasName := "line"
                  fields := [{ name := "shop", column := "shop" },
                    { name := "order_no", column := "order_no" }] }
      aliasName := "lines"
      path := ["Lines"] }
    []

/-- Orders by shop and number. -/
def orders (keys : List (Value × Value)) : Destination :=
  .entities default false
    (keys.map fun (shop, no) => .mk {} [("shop", shop), ("no", no)] [] [] 0)

/-- Rows of lines by shop and order number. -/
def lines (keys : List (Value × Value)) : List Row :=
  keys.map fun (shop, no) => ⟨["shop", "order_no"], [shop, no]⟩

theorem accepted_orders (keys : List (Value × Value)) (columns : List String) (rows : List Row) :
    ordersLines.Accepted (orders keys) columns rows := by
  intro m es same e he owner inside
  obtain rfl : e = owner := Option.some.inj inside
  cases same
  obtain ⟨key, -, rfl⟩ := List.mem_map.mp he
  rfl

theorem loadRelation_ordersLines :
    let rows := lines [(.text "a", .int 1), (.text "b", .int 1)]
    let d := orders [(.text "a", .text "1"), (.text "a", .null), (.text "a", .text "2")]
    ∃ marks d', (loadRelation {} {} ordersLines d).respond (fun _ _ =>
        some { result := .ok { rows } }) = (marks, some (d', none)) ∧
      Conversation.statements marks =
        ["SELECT \"line\".\"shop\", \"line\".\"order_no\" FROM \"lines\" AS \"line\" " ++
          "WHERE ((\"line\".\"shop\" = 'a' AND \"line\".\"order_no\" = '1') OR " ++
          "(\"line\".\"shop\" = 'a' AND \"line\".\"order_no\" = '2'))"] ∧
      ordersLines.ToldApart d ["shop", "order_no"] rows (· = ·) (ordersLines.askedKeys d)
        (Conversation.attachments marks) := by
  intro rows d
  have asked : (ordersLines.relatedQuery {} (ordersLines.askedKeys d)).toOption.map (fun r =>
      (r.2, (r.1.sql .postgres .rows).toOption)) = some (["shop", "order_no"], some
        ("SELECT \"line\".\"shop\", \"line\".\"order_no\" FROM \"lines\" AS \"line\" " ++
          "WHERE ((\"line\".\"shop\" = 'a' AND \"line\".\"order_no\" = '1') OR " ++
          "(\"line\".\"shop\" = 'a' AND \"line\".\"order_no\" = '2'))")) := by
    decide +kernel
  obtain ⟨⟨q, columns⟩, built, rest⟩ := Option.map_eq_some_iff.mp asked
  obtain ⟨rfl, rendered⟩ := Prod.mk.inj rest
  have asks : ordersLines.Asks {} {} (ordersLines.askedKeys d) q ["shop", "order_no"] _ :=
    ⟨by decide, Except.eq_ok_of_toOption built, Except.eq_ok_of_toOption rendered⟩
  obtain ⟨-, marks, d', responds, asked, -, -, apart⟩ := loadRelation_toldApart (t := ordersLines)
    rfl (by decide) (by decide) (fun _ _ => some { result := .ok { rows } }) (accepted_orders _ _ _)
    asks rfl rfl
  exact ⟨marks, d', responds, asked, apart.mpr (unmistakable_of_plain (by decide +kernel))⟩

/-- Of two orders only the first is asked for, and each is handed the lines of both. -/
theorem loadRelation_mistaken :
    let d := orders [(.text "a\x1f", .text "b"), (.text "a", .text "\x1fb")]
    let rows := lines [(.text "a\x1f", .text "b"), (.text "a", .text "\x1fb")]
    let run := (loadRelation {} {} ordersLines d).respond fun _ _ =>
      some { result := .ok { rows } }
    ordersLines.ownersTexts d = [["a\x1f", "b"], ["a", "\x1fb"]] ∧
      Conversation.statements run.1 =
        ["SELECT \"line\".\"shop\", \"line\".\"order_no\" FROM \"lines\" AS \"line\" " ++
          "WHERE ((\"line\".\"shop\" = 'a\x1f' AND \"line\".\"order_no\" = 'b'))"] ∧
      (Conversation.attachments run.1).map (fun a =>
          (a.entity, a.rows.filterMap (rowTexts? ["shop", "order_no"]))) =
        [(0, [["a\x1f", "b"], ["a", "\x1fb"]]), (1, [["a\x1f", "b"], ["a", "\x1fb"]])] := by
  decide +kernel

end JoinTree

end SqlCompose
