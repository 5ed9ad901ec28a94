import CacheWarden.Proofs.Table
import CacheWarden.Proofs.Toml.Value

/-!
# Documents that are written and read back

A document with plain fields and one table after them is read back: the fields and the table, in the
ascending order of their keys. It does not matter how many blank lines follow. Main statement:
`read?_document`.
-/

namespace CacheWarden.Toml

open Text Scan

/-! ### Keys -/

/-- Whether a key stands without quotes. -/
def BareKey (key : String) : Prop := key.toList ≠ [] ∧ key.toList.all isBareKey = true

instance (key : String) : Decidable (BareKey key) := inferInstanceAs (Decidable (_ ∧ _))

theorem BareKey.keyText_eq {key : String} (h : BareKey key) : keyText key = key.toList := by
  have hbare : (!key.toList.isEmpty && key.toList.all isBareKey) = true := by
    rw [Bool.and_eq_true, Bool.not_eq_true', List.isEmpty_eq_false_iff]
    exact h
  simp only [keyText]
  rw [if_pos hbare]

/-- A bare key starts with a character that has no other meaning. -/
theorem BareKey.head? {key : String} (h : BareKey key) (rest : List Char) :
    ∃ c, (key.toList ++ rest).head? = some c ∧ isBareKey c = true := by
  obtain ⟨hne, hbare⟩ := h
  obtain ⟨c, cs, hcs⟩ := List.exists_cons_of_ne_nil hne
  exact ⟨c, by rw [hcs]; rfl, List.all_eq_true.1 hbare c (hcs ▸ List.mem_cons_self)⟩

theorem BareKey.head?_ne {key : String} (h : BareKey key) {d : Char} (hd : isBareKey d = false)
    (rest : List Char) : (key.toList ++ rest).head? ≠ some d := by
  obtain ⟨c, hc, hbare⟩ := h.head? rest
  rw [hc]
  rintro ⟨⟩
  rw [hd] at hbare
  cases hbare

theorem run_spaces {blank rest : List Char} (hb : ∀ c ∈ blank, isSpace c = true)
    (hrest : ∀ c, rest.head? = some c → isSpace c = false) :
    spaces (blank ++ rest) = some ((), rest) := run_bind (run_takeWhile hb hrest) _

theorem run_spaces_of_head {rest : List Char}
    (hrest : ∀ c, rest.head? = some c → isSpace c = false) : spaces rest = some ((), rest) :=
  run_bind (run_takeWhile_of_head hrest) _

theorem BareKey.not_isSpace {key : String} (h : BareKey key) (rest : List Char) (c : Char)
    (hc : (key.toList ++ rest).head? = some c) : isSpace c = false := by
  rw [isSpace, Bool.or_eq_false_iff, beq_eq_false_iff_ne, beq_eq_false_iff_ne]
  constructor
  · rintro rfl
    exact h.head?_ne (by decide) rest hc
  · rintro rfl
    exact h.head?_ne (by decide) rest hc

theorem run_keyPart {key : String} (h : BareKey key) {rest : List Char}
    (hrest : ∀ c, rest.head? = some c → isBareKey c = false) :
    keyPart (key.toList ++ rest) = some (key, rest) := by
  have hread : (do let s ← takeSome isBareKey; pure (String.ofList s) : Scan String)
      (key.toList ++ rest) = some (key, rest) := by
    rw [run_bind (run_takeSome h.1 (List.all_eq_true.1 h.2) hrest)]
    exact congrArg (fun k => some (k, rest)) String.ofList_toList
  rw [keyPart, run_bind (run_peek? _)]
  refine (congrFun ?_ _).trans hread
  split
  · exact absurd ‹_› (h.head?_ne (by decide) rest)
  · exact absurd ‹_› (h.head?_ne (by decide) rest)
  · rfl

/-- A key is taken with the blanks behind it. -/
theorem run_key {k : String} (h : BareKey k) {blank rest : List Char}
    (hb : ∀ c ∈ blank, isSpace c = true)
    (hrest : ∀ c, rest.head? = some c → isBareKey c = false ∧ isSpace c = false ∧ c ≠ '.') :
    key (k.toList ++ (blank ++ rest)) = some (([], k), rest) := by
  have hbehind : ∀ c, (blank ++ rest).head? = some c → isBareKey c = false := by
    intro c hc
    cases blank with
    | nil => exact (hrest c hc).1
    | cons b blank =>
      obtain rfl : b = c := Option.some.inj hc
      have hspace := hb b List.mem_cons_self
      rw [isSpace, Bool.or_eq_true, beq_iff_eq, beq_iff_eq] at hspace
      rcases hspace with rfl | rfl <;> decide
  have hpart : (do
      spaces
      let p ← keyPart
      spaces
      pure p : Scan String) (k.toList ++ (blank ++ rest)) = some (k, rest) := by
    rw [run_bind (run_spaces_of_head (h.not_isSpace _)), run_bind (run_keyPart h hbehind),
      run_bind (run_spaces hb fun c hc => (hrest c hc).2.1)]
    rfl
  have hmore (part : Scan String) : repeated ((do
      char '.'
      let p ← part
      pure (some p)) <|> pure none) rest = some ([], rest) := by
    refine run_repeated (.done ((run_orElse_of_none (run_bind_of_none ?_ _) _).trans rfl))
    exact run_char_of_ne fun hc => (hrest '.' hc).2.2 rfl
  rw [key, run_bind hpart, run_bind (hmore _)]
  rfl

/-! ### Lines -/

theorem run_lineTail (rest : List Char) : lineTail ('\n' :: rest) = some ((), rest) := by
  have hcomment : comment ('\n' :: rest) = none :=
    run_bind_of_none (run_char_of_ne (by rintro ⟨⟩)) _
  rw [lineTail, run_bind (run_spaces_of_head (by rintro c ⟨⟩; decide)),
    run_bind (run_maybe_of_none hcomment)]
  exact run_orElse (run_newline rest) _

theorem run_line_blank (rest : List Char) : line ('\n' :: rest) = some (.blank, rest) := by
  rw [line, run_bind (run_spaces_of_head (by rintro c ⟨⟩; decide)), run_bind (run_peek? _)]
  exact run_bind (run_newline rest) _

/-- Whether a field is read back from its line. -/
structure Written (f : String × Value) : Prop where
  bare : BareKey f.1
  storable : Storable f.2

/-- What a reader makes of the line of a field. -/
def lineOf (f : String × Value) : Line := .field [] f.1 f.2

theorem solid_documentValue {v : Value} (h : Storable v) (rest : List Char) :
    Solid (documentValue v ++ rest) := by
  cases h with
  | plain h =>
    rw [documentValue_of_plain h]
    exact solid_inlineText h rest
  | @array items h =>
    have hopen : (documentValue (.array items) ++ rest).head? = some '[' := by
      rw [documentValue]
      split <;> rfl
    intro c hc
    obtain rfl : '[' = c := Option.some.inj (hopen.symm.trans hc)
    decide

theorem run_line_field {f : String × Value} (hf : Written f) (rest : List Char) :
    line (fieldLine f ++ rest) = some (lineOf f, rest) := by
  obtain ⟨k, v⟩ := f
  obtain ⟨hk, hv⟩ := hf
  have htext : fieldLine (k, v) ++ rest =
      k.toList ++ ([' '] ++ '=' :: ([' '] ++ (documentValue v ++ '\n' :: rest))) := by
    simp [fieldLine, hk.keyText_eq]
  have hread : (do
      let path ← key
      char '='
      spaces
      let v ← value
      lineTail
      pure (.field path.1 path.2 v) : Scan Line)
        (k.toList ++ ([' '] ++ '=' :: ([' '] ++ (documentValue v ++ '\n' :: rest)))) =
      some (.field [] k v, rest) := by
    have hblank : ∀ c ∈ [' '], isSpace c = true := by simp [isSpace]
    rw [run_bind (run_key hk hblank (by rintro c ⟨⟩; decide))]
    dsimp only
    rw [run_bind (run_char '=' _),
      run_bind (run_spaces hblank fun c hc => (solid_documentValue hv _ c hc).1),
      run_bind (run_value hv rest), run_bind (run_lineTail rest)]
    rfl
  rw [htext, line, run_bind (run_spaces_of_head (hk.not_isSpace _)),
    run_bind (run_peek? _)]
  refine (congrFun ?_ _).trans hread
  obtain ⟨c, hc, hbare⟩ := hk.head? ([' '] ++ '=' :: ([' '] ++ (documentValue v ++ '\n' :: rest)))
  have hfeed : ¬ (c == '\n' || c == '\r') = true := by
    rw [Bool.or_eq_true, beq_iff_eq, beq_iff_eq]
    rintro (rfl | rfl) <;> cases hbare
  rw [hc]
  split
  · rename_i heq
    cases heq
  · rename_i heq
    cases heq
    cases hbare
  · rename_i heq
    cases heq
    cases hbare
  · rename_i d _ _ heq
    obtain rfl : c = d := Option.some.inj heq
    exact if_neg hfeed

theorem run_line_table {name : String} (h : BareKey name) (rest : List Char) :
    line ('[' :: name.toList ++ ']' :: '\n' :: rest) = some (.table [] name, rest) := by
  have hdouble : ¬ ['[', '['] <+: '[' :: (name.toList ++ ']' :: '\n' :: rest) := by
    rintro ⟨r, hr⟩
    have hhead := h.head?_ne (d := '[') (by decide) (']' :: '\n' :: rest)
    rw [← (List.cons.inj hr).2] at hhead
    exact hhead rfl
  have hkey : key (name.toList ++ ([] ++ ']' :: '\n' :: rest)) =
      some (([], name), ']' :: '\n' :: rest) := run_key h (by simp) (by rintro c ⟨⟩; decide)
  rw [List.nil_append] at hkey
  rw [line, List.cons_append, run_bind (run_spaces_of_head (by rintro c ⟨⟩; decide)),
    run_bind (run_peek? _)]
  show (maybe (exactly ['[', '[']) >>= _) ('[' :: (name.toList ++ ']' :: '\n' :: rest)) = _
  rw [run_bind (run_maybe_of_none (run_exactly_of_not_isPrefix hdouble))]
  show (char '[' >>= _) ('[' :: (name.toList ++ ']' :: '\n' :: rest)) = _
  rw [run_bind (run_char '[' _), run_bind hkey]
  dsimp only
  rw [run_bind (run_char ']' _), run_bind (run_lineTail rest)]
  rfl

/-! ### Documents -/

/-- One round of the lines of a document. -/
def documentPart : Scan (Option Line) :=
  (do atEnd; pure none) <|> (do let l ← line; pure (some l))

theorem run_documentPart {s rest : List Char} {l : Line} (hne : s ≠ [])
    (h : line s = some (l, rest)) : documentPart s = some (some l, rest) := by
  obtain ⟨c, r, rfl⟩ := List.exists_cons_of_ne_nil hne
  exact (run_orElse_of_none (run_bind_of_none rfl _) _).trans (run_bind h _)

theorem rounds_blankLines (n : Nat) :
    Rounds documentPart (List.replicate n '\n') (List.replicate n .blank) [] := by
  induction n with
  | zero => exact .done rfl
  | succ n ih =>
    exact .cons (List.cons_ne_nil '\n' []) (run_documentPart (List.cons_ne_nil _ _)
      (run_line_blank _)) ih

theorem rounds_fields {fs : Fields} (hfs : ∀ f ∈ fs, Written f) {s rest : List Char}
    {ls : List Line} (h : Rounds documentPart s ls rest) :
    Rounds documentPart (fs.flatMap fieldLine ++ s) (fs.map lineOf ++ ls) rest := by
  induction fs with
  | nil => exact h
  | cons f fs ih =>
    have hne : fieldLine f ≠ [] := by simp [fieldLine]
    have hline := run_line_field (hfs f List.mem_cons_self) (fs.flatMap fieldLine ++ s)
    rw [List.flatMap_cons, List.append_assoc, List.map_cons, List.cons_append]
    exact .cons hne (run_documentPart (by simp [hne]) hline)
      (ih fun g hg => hfs g (List.mem_cons_of_mem f hg))

/-- The lines of a document with a table. -/
def documentLinesOf (fields : Fields) (name : String) (tableFields : Fields) (n : Nat) :
    List Line :=
  fields.map lineOf ++
    .blank :: .table [] name :: (tableFields.map lineOf ++ List.replicate n .blank)

theorem run_documentLines {fields : Fields} (hfields : ∀ f ∈ fields, Written f) {name : String}
    (hname : BareKey name) {tableFields : Fields} (htableFields : ∀ f ∈ tableFields, Written f)
    (n : Nat) :
    documentLines (document fields name tableFields ++ List.replicate n '\n') =
      some (documentLinesOf fields name tableFields n, []) := by
  have htext : document fields name tableFields ++ List.replicate n '\n' =
      fields.flatMap fieldLine ++
        (['\n'] ++ ('[' :: name.toList ++ [']', '\n'] ++
          (tableFields.flatMap fieldLine ++ List.replicate n '\n'))) := by
    simp [document, hname.keyText_eq]
  have htable := rounds_fields htableFields (rounds_blankLines n)
  have hheader : Rounds documentPart ('[' :: name.toList ++ [']', '\n'] ++ _) _ _ :=
    .cons (by simp) (run_documentPart (by simp) (by
      rw [List.append_assoc]
      exact run_line_table hname _)) htable
  have hblank : Rounds documentPart (['\n'] ++ _) _ _ :=
    .cons (by simp) (run_documentPart (by simp) (run_line_blank _)) hheader
  rw [htext]
  exact run_repeated (rounds_fields hfields hblank)

/-! ### Tables -/

/-- The entries that fields make. -/
def entriesOf (fs : Fields) : List (String × Entry) := fs.map fun f => (f.1, .value f.2)

theorem entriesOf_nil : entriesOf [] = [] := rfl

/-- The table of a document after its header. -/
def withTable (es : List (String × Entry)) (name : String) (tes : List (String × Entry)) :
    Section :=
  .mk .defined (es ++ [(name, .section (.mk .defined tes))])

theorem setRow_append {es : List (String × Entry)} {key : String} (h : key ∉ es.map Prod.fst)
    (e : Entry) (rest : List (String × Entry)) :
    setRow key e (es ++ rest) = es ++ setRow key e rest := by
  induction es with
  | nil => rfl
  | cons row es ih =>
    obtain ⟨k, x⟩ := row
    rw [List.map_cons, List.mem_cons, not_or] at h
    rw [List.cons_append, setRow, if_neg (Ne.symm h.1), ih h.2, List.cons_append]

theorem addField_of_not_mem {es : List (String × Entry)} {key : String}
    (h : key ∉ es.map Prod.fst) (v : Value) :
    Section.addField [] key v (.mk .defined es) =
      some (.mk .defined (es ++ [(key, .value v)])) := by
  have hlookup := Table.lookup_of_not_mem h
  simp only [Section.addField, Section.descend, Section.entries, hlookup]
  rfl

/-- Fields in front of the header. -/
theorem applyLines_fields (fs : Fields) {es : List (String × Entry)}
    (h : (es.map Prod.fst ++ fs.map Prod.fst).Nodup) (ls : List Line) :
    applyLines (fs.map lineOf ++ ls) [] (.mk .defined es) =
      applyLines ls [] (.mk .defined (es ++ entriesOf fs)) := by
  induction fs generalizing es with
  | nil =>
    rw [entriesOf_nil, List.append_nil]
    rfl
  | cons f fs ih =>
    have hfresh : f.1 ∉ es.map Prod.fst := fun hmem =>
      (List.nodup_append.1 h).2.2 f.1 hmem f.1 List.mem_cons_self rfl
    have hrest : ((es ++ [(f.1, Entry.value f.2)]).map Prod.fst ++ fs.map Prod.fst).Nodup := by
      simpa using h
    rw [List.map_cons, List.cons_append, lineOf, applyLines, Section.descend,
      addField_of_not_mem hfresh, Option.bind_some, ih hrest, List.append_assoc]
    rfl

/-- Fields behind the header. -/
theorem applyLines_tableFields (fs : Fields) {es tes : List (String × Entry)} {name : String}
    (hname : name ∉ es.map Prod.fst) (h : (tes.map Prod.fst ++ fs.map Prod.fst).Nodup)
    (ls : List Line) :
    applyLines (fs.map lineOf ++ ls) [name] (withTable es name tes) =
      applyLines ls [name] (withTable es name (tes ++ entriesOf fs)) := by
  induction fs generalizing tes with
  | nil =>
    rw [entriesOf_nil, List.append_nil]
    rfl
  | cons f fs ih =>
    have hfresh : f.1 ∉ tes.map Prod.fst := fun hmem =>
      (List.nodup_append.1 h).2.2 f.1 hmem f.1 List.mem_cons_self rfl
    have hrest : ((tes ++ [(f.1, Entry.value f.2)]).map Prod.fst ++ fs.map Prod.fst).Nodup := by
      simpa using h
    have hlookup : (es ++ [(name, Entry.section (.mk .defined tes))]).lookup name =
        some (.section (.mk .defined tes)) := by
      rw [List.lookup_append, Table.lookup_of_not_mem hname]
      simp
    have hstep : (withTable es name tes).descend .passed (Section.addField [] f.1 f.2) [name] =
        some (withTable es name (tes ++ [(f.1, .value f.2)])) := by
      simp only [withTable, Section.descend, hlookup, addField_of_not_mem hfresh,
        setRow_append hname]
      simp [setRow]
    rw [List.map_cons, List.cons_append, lineOf, applyLines, hstep, Option.bind_some, ih hrest,
      List.append_assoc]
    rfl

theorem applyLines_blanks (n : Nat) (header : List String) (root : Section) :
    applyLines (List.replicate n .blank) header root = some root := by
  induction n with
  | zero => rfl
  | succ n ih => exact ih

theorem openTable_of_not_mem {es : List (String × Entry)} {name : String}
    (h : name ∉ es.map Prod.fst) :
    Section.openTable [] name (.mk .defined es) = some (withTable es name []) := by
  have hset := setRow_append h (.section (.mk .defined [])) []
  rw [List.append_nil] at hset
  simp only [Section.openTable, Section.descend, Section.entries, Table.lookup_of_not_mem h, hset]
  rfl

theorem applyLines_documentLinesOf {fields : Fields} {name : String} {tableFields : Fields}
    (hkeys : (fields.map Prod.fst ++ [name]).Nodup) (htable : (tableFields.map Prod.fst).Nodup)
    (n : Nat) :
    applyLines (documentLinesOf fields name tableFields n) [] (.mk .defined []) =
      some (withTable (entriesOf fields) name (entriesOf tableFields)) := by
  have hname : name ∉ (entriesOf fields).map Prod.fst := by
    have hdisjoint := (List.nodup_append.1 hkeys).2.2
    simp only [entriesOf, List.map_map]
    exact fun hmem => hdisjoint name hmem name List.mem_cons_self rfl
  have hfields : (([] : List (String × Entry)).map Prod.fst ++ fields.map Prod.fst).Nodup :=
    (List.nodup_append.1 hkeys).1
  have hfresh : (([] : List (String × Entry)).map Prod.fst ++ tableFields.map Prod.fst).Nodup :=
    htable
  rw [documentLinesOf, applyLines_fields fields hfields, List.nil_append, applyLines, applyLines,
    openTable_of_not_mem hname, Option.bind_some, List.nil_append,
    applyLines_tableFields tableFields hname hfresh, applyLines_blanks, List.nil_append]

theorem entryFields_entriesOf (fs : Fields) (es : List (String × Entry)) :
    Section.entryFields (entriesOf fs ++ es) = fs ++ Section.entryFields es := by
  induction fs with
  | nil => rfl
  | cons f fs ih =>
    rw [List.cons_append, ← ih]
    rfl

theorem fields_withTable (fields : Fields) (name : String) (tableFields : Fields) :
    (withTable (entriesOf fields) name (entriesOf tableFields)).fields =
      sortFields (fields ++ [(name, .table (sortFields tableFields))]) := by
  have htable := entryFields_entriesOf tableFields []
  rw [List.append_nil, Section.entryFields, List.append_nil] at htable
  rw [withTable, Section.fields, entryFields_entriesOf, Section.entryFields, Section.fields, htable,
    Section.entryFields]

theorem read?_of_head? {s : List Char} (h : s.head? ≠ some '\uFEFF') :
    read? (String.ofList s) = ((whole? documentLines s).bind fun ls =>
      applyLines ls [] (.mk .defined [])).map Section.fields := by
  rw [read?, String.toList_ofList]
  split
  · exact absurd rfl h
  · rfl

/-- A document is read back, with any number of blank lines behind it. -/
theorem read?_document {fields : Fields} (hfields : ∀ f ∈ fields, Written f) {name : String}
    (hname : BareKey name) {tableFields : Fields} (htableFields : ∀ f ∈ tableFields, Written f)
    (hkeys : (fields.map Prod.fst ++ [name]).Nodup) (htable : (tableFields.map Prod.fst).Nodup)
    (n : Nat) :
    read? (String.ofList (document fields name tableFields ++ List.replicate n '\n')) =
      some (sortFields (fields ++ [(name, .table (sortFields tableFields))])) := by
  have hmark : (document fields name tableFields ++ List.replicate n '\n').head? ≠
      some '\uFEFF' := by
    cases fields with
    | nil => exact fun h => by cases h
    | cons f fields =>
      have hbare := (hfields f List.mem_cons_self).bare
      rw [document, List.flatMap_cons, fieldLine, hbare.keyText_eq]
      simp only [List.append_assoc]
      exact hbare.head?_ne (by decide) _
  rw [read?_of_head? hmark, whole?, run_documentLines hfields hname htableFields, Option.bind_some,
    applyLines_documentLinesOf hkeys htable, Option.map_some, fields_withTable]

end CacheWarden.Toml
