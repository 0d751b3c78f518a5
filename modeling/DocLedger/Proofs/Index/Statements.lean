import DocLedger.Index.Statement
import Mathlib.Tactic.ByContra

/-!
# The text of a query

The text of a query of plain columns is read back as that query, whatever characters the
name of the table has: between quotes, each quote of the name is written twice, and the
reader of tokens takes it off again.
-/

namespace DocLedger.Index

/-! ## Tokens one after another -/

theorem length_of_untilMark {mark : Char} {fuel : Nat} {cs s last : List Char}
    (h : untilMark mark fuel cs = some (s, last)) : last.length ≤ cs.length := by
  induction fuel generalizing cs s last with
  | zero => cases h
  | succ fuel ih =>
      cases cs with
      | nil => cases h
      | cons c rest =>
          unfold untilMark at h
          by_cases hmark : (c == mark) = true
          · rw [if_pos hmark] at h
            cases rest with
            | nil =>
                cases h
                simp
            | cons d more =>
                dsimp only at h
                by_cases hdouble : (d == mark) = true
                · rw [if_pos hdouble, Option.map_eq_some_iff] at h
                  obtain ⟨⟨s', last'⟩, hrec, heq⟩ := h
                  cases heq
                  have hshort := ih hrec
                  simp only [List.length_cons]
                  omega
                · rw [if_neg hdouble] at h
                  cases h
                  simp
          · rw [if_neg hmark, Option.map_eq_some_iff] at h
            obtain ⟨⟨s', last'⟩, hrec, heq⟩ := h
            cases heq
            have hshort := ih hrec
            simp only [List.length_cons]
            omega

theorem length_dropWhile_lt {p : Char → Bool} {c : Char} {rest : List Char} (h : p c = true) :
    ((c :: rest).dropWhile p).length < (c :: rest).length := by
  rw [List.dropWhile_cons_of_pos h]
  exact Nat.lt_succ_of_le (List.dropWhile_sublist p).length_le

/-- Fuel beyond the length of a text makes no difference. -/
theorem tokens_fuel {a b : Nat} {cs : List Char} (ha : cs.length < a) (hb : cs.length < b) :
    tokens a cs = tokens b cs := by
  induction a generalizing b cs with
  | zero => omega
  | succ a ih =>
      obtain ⟨b, rfl⟩ : ∃ n, b = n + 1 := ⟨b - 1, by omega⟩
      cases cs with
      | nil => rfl
      | cons c rest =>
          rw [List.length_cons] at ha hb
          have hshort {left : List Char} (h : left.length < rest.length + 1) :
              tokens a left = tokens b left := ih (by omega) (by omega)
          have hrest : tokens a rest = tokens b rest := hshort (Nat.lt_succ_self _)
          rw [tokens, tokens, hrest]
          have hword (h : isWordChar c = true) :
              tokens a ((c :: rest).dropWhile isWordChar) =
                tokens b ((c :: rest).dropWhile isWordChar) := hshort (length_dropWhile_lt h)
          have hquoted (mark : Char) (s last : List Char)
              (h : untilMark mark (rest.length + 1) rest = some (s, last)) :
              tokens a last = tokens b last := hshort (Nat.lt_succ_of_le (length_of_untilMark h))
          split
          · rfl
          · split
            · next h => rw [hword h]
            · split
              · split
                · next s last h => rw [hquoted _ s last h]
                · rfl
              · split
                · split
                  · next s last h => rw [hquoted _ s last h]
                  · rfl
                · rfl

def lex (cs : List Char) : List Token := tokens (cs.length + 1) cs

theorem tokens_eq_lex {fuel : Nat} {cs : List Char} (h : cs.length < fuel) :
    tokens fuel cs = lex cs := tokens_fuel h (Nat.lt_succ_self _)

theorem lex_blank (rest : List Char) : lex (' ' :: rest) = lex rest := by
  rw [lex, tokens]
  simp only [beq_self_eq_true, Bool.true_or, if_true]
  exact tokens_eq_lex (by simp)

/-- A sign is neither a blank, nor part of a word, nor a mark. -/
def IsSign (c : Char) : Prop := c ∈ ['*', ',', '=', '?']

theorem lex_sign {c : Char} (hc : IsSign c) (rest : List Char) :
    lex (c :: rest) = .sign c :: lex rest := by
  have hrest : tokens (rest.length + 1) rest = lex rest := rfl
  simp only [IsSign, List.mem_cons, List.not_mem_nil, or_false] at hc
  rcases hc with rfl | rfl | rfl | rfl <;> rw [lex, List.length_cons, tokens, hrest] <;> rfl

/-- A word: some characters, all of which are parts of words. -/
def IsWord (name : String) : Prop :=
  name.toList ≠ [] ∧ ∀ c ∈ name.toList, isWordChar c = true

instance (name : String) : Decidable (IsWord name) :=
  decidable_of_iff (name.toList ≠ [] ∧ name.toList.all isWordChar = true) (by simp [IsWord])

theorem not_blank_of_isWordChar {c : Char} (h : isWordChar c = true) :
    (c == ' ' || c == '\n' || c == '\t' || c == '\r') = false := by
  by_contra hblank
  rw [Bool.not_eq_false] at hblank
  simp only [Bool.or_eq_true, beq_iff_eq] at hblank
  rcases hblank with ((rfl | rfl) | rfl) | rfl <;> cases h

theorem takeWhile_word {w rest : List Char} (hw : ∀ c ∈ w, isWordChar c = true)
    (hrest : ∀ c ∈ rest.head?, isWordChar c = false) :
    (w ++ rest).takeWhile isWordChar = w ∧ (w ++ rest).dropWhile isWordChar = rest := by
  rw [List.takeWhile_append_of_pos hw, List.dropWhile_append_of_pos hw]
  cases rest with
  | nil => simp
  | cons c more =>
      have hc : isWordChar c = false := hrest c rfl
      simp [hc]

theorem lex_word {name : String} (hname : IsWord name) {rest : List Char}
    (hrest : ∀ c ∈ rest.head?, isWordChar c = false) :
    lex (name.toList ++ rest) = .word name :: lex rest := by
  obtain ⟨hsome, hword⟩ := hname
  obtain ⟨htake, hdrop⟩ := takeWhile_word hword hrest
  have hback : String.ofList name.toList = name := String.ofList_toList
  generalize name.toList = w at hsome hword htake hdrop hback
  cases w with
  | nil => exact absurd rfl hsome
  | cons c more =>
      have hc : isWordChar c = true := hword c List.mem_cons_self
      rw [List.cons_append] at htake hdrop ⊢
      rw [lex, tokens, not_blank_of_isWordChar hc, hc, htake, hdrop, hback]
      simp only [Bool.false_eq_true, if_false, if_true]
      rw [tokens_eq_lex (by rw [List.length_cons, List.length_append]; omega)]

/-! ## Names between quotes -/

/-- The reader of a name takes the doubled marks off and stops at the single one. -/
theorem untilMark_doubledMarks {cs rest : List Char} (hrest : rest.head? ≠ some identifierMark)
    {fuel : Nat} (hfuel : (doubledMarks cs).length < fuel) :
    untilMark identifierMark fuel (doubledMarks cs ++ identifierMark :: rest) =
      some (cs, rest) := by
  induction cs generalizing fuel with
  | nil =>
      obtain ⟨fuel, rfl⟩ : ∃ n, fuel = n + 1 := ⟨fuel - 1, by omega⟩
      cases rest with
      | nil => rfl
      | cons d more =>
          have hd : (d == identifierMark) = false := by
            rw [beq_eq_false_iff_ne]
            intro heq
            exact hrest (congrArg some heq)
          simp [doubledMarks, untilMark, hd]
  | cons c cs ih =>
      obtain ⟨fuel, rfl⟩ : ∃ n, fuel = n + 1 := ⟨fuel - 1, by omega⟩
      by_cases hc : (c == identifierMark) = true
      · have hmark : c = identifierMark := beq_iff_eq.mp hc
        subst hmark
        rw [doubledMarks, if_pos hc, List.length_cons, List.length_cons] at hfuel
        rw [doubledMarks, if_pos hc, List.cons_append, List.cons_append]
        unfold untilMark
        rw [if_pos hc]
        dsimp only
        rw [if_pos hc, ih (by omega)]
        rfl
      · rw [doubledMarks, if_neg hc, List.length_cons] at hfuel
        rw [doubledMarks, if_neg hc, List.cons_append]
        unfold untilMark
        rw [if_neg hc, ih (by omega)]
        rfl

theorem lex_quoted (name : String) {rest : List Char} (hrest : rest.head? ≠ some identifierMark) :
    lex ((quoteIdentifier name).toList ++ rest) = .quoted name :: lex rest := by
  have hfuel : (doubledMarks name.toList).length <
      (doubledMarks name.toList ++ identifierMark :: rest).length + 1 := by
    rw [List.length_append]
    omega
  have hname := untilMark_doubledMarks hrest hfuel
  have htext : (quoteIdentifier name).toList ++ rest =
      identifierMark :: (doubledMarks name.toList ++ identifierMark :: rest) := by
    simp [quoteIdentifier]
  rw [htext, lex, tokens, hname]
  have hblank : (identifierMark == ' ' || identifierMark == '\n' || identifierMark == '\t' ||
      identifierMark == '\r') = false := by decide
  have hword : isWordChar identifierMark = false := by decide
  simp only [hblank, hword, Bool.false_eq_true, if_false, beq_self_eq_true, if_true,
    String.ofList_toList]
  rw [tokens_eq_lex (by simp; omega)]

/-! ## Queries -/

/-- The tokens of names with commas between them. -/
def nameTokens : List String → List Token
  | [] => []
  | [name] => [.word name]
  | name :: other :: names => .word name :: .sign ',' :: nameTokens (other :: names)

theorem lex_joined {names : List String} (hsome : names ≠ [])
    (hwords : ∀ name ∈ names, IsWord name) {rest : List Char}
    (hrest : ∀ c ∈ rest.head?, isWordChar c = false) :
    lex ((Text.joined ", " names).toList ++ rest) = nameTokens names ++ lex rest := by
  induction names with
  | nil => exact absurd rfl hsome
  | cons name names ih =>
      obtain ⟨hname, hnames⟩ := List.forall_mem_cons.mp hwords
      cases names with
      | nil => exact lex_word hname hrest
      | cons other more =>
          have hcomma : (Text.joined ", " (name :: other :: more)).toList ++ rest =
              name.toList ++ ',' :: ' ' :: ((Text.joined ", " (other :: more)).toList ++ rest) := by
            simp [Text.joined]
          have hstop :
              ∀ c ∈ (',' :: ' ' :: ((Text.joined ", " (other :: more)).toList ++ rest)).head?,
              isWordChar c = false := by
            rintro c ⟨⟩
            rfl
          rw [hcomma, lex_word hname hstop, lex_sign (by simp [IsSign]), lex_blank,
            ih (List.cons_ne_nil _ _) hnames]
          rfl

theorem readNames_nameTokens {names : List String} (hsome : names ≠ []) {fuel : Nat}
    (hfuel : names.length ≤ fuel) {rest : List Token} (hrest : rest.head? ≠ some (.sign ',')) :
    readNames fuel (nameTokens names ++ rest) = .ok (names, rest) := by
  induction names generalizing fuel with
  | nil => exact absurd rfl hsome
  | cons name names ih =>
      obtain ⟨fuel, rfl⟩ : ∃ n, fuel = n + 1 := ⟨fuel - 1, by simp at hfuel; omega⟩
      cases names with
      | nil =>
          show readNames (fuel + 1) (.word name :: rest) = _
          rw [readNames]
          simp only [readName, bind, Except.bind]
          split
          · exact absurd rfl hrest
          · rfl
      | cons other more =>
          rw [List.length_cons] at hfuel
          have hmore : readNames fuel (nameTokens (other :: more) ++ rest) =
              .ok (other :: more, rest) := ih (List.cons_ne_nil _ _) (by omega)
          show readNames (fuel + 1)
            (.word name :: .sign ',' :: (nameTokens (other :: more) ++ rest)) = _
          rw [readNames]
          simp only [readName, bind, Except.bind, hmore]
          rfl

theorem exists_word_of_nameTokens {names : List String} (h : names ≠ []) :
    ∃ name more, nameTokens names = .word name :: more := by
  cases names with
  | nil => exact absurd rfl h
  | cons name names => cases names <;> exact ⟨name, _, rfl⟩

theorem length_le_nameTokens (names : List String) : names.length ≤ (nameTokens names).length := by
  induction names with
  | nil => exact Nat.le_refl 0
  | cons name names ih =>
      cases names with
      | nil => exact Nat.le_refl 1
      | cons other more =>
          simp only [nameTokens, List.length_cons] at ih ⊢
          omega

/-- A query of all columns or of some words, under a condition and in an order that name
words. -/
structure Query.Plain (q : Query) : Prop where
  columns : ∀ names, q.columns = some names → names ≠ [] ∧ ∀ name ∈ names, IsWord name
  condition : ∀ c, q.condition = some c → IsWord c.column
  order : ∀ column, q.order = some column → IsWord column

def conditionText : Option Condition → List Char
  | some c => ' ' :: ("WHERE".toList ++ ' ' :: (c.column.toList ++ [' ', '=', ' ', '?']))
  | none => []

def orderText : Option String → List Char
  | some column => ' ' :: ("ORDER".toList ++ ' ' :: ("BY".toList ++ ' ' :: column.toList))
  | none => []

def columnsText : Option (List String) → List Char
  | some names => (Text.joined ", " names).toList
  | none => ['*']

theorem toList_text (q : Query) :
    q.text.toList = "SELECT".toList ++ ' ' :: (columnsText q.columns ++
      ' ' :: ("FROM".toList ++ ' ' :: (q.table.toList ++
        (conditionText q.condition ++ orderText q.order)))) := by
  obtain ⟨columns, table, condition, order⟩ := q
  cases columns <;> cases condition <;> cases order <;>
    simp [Query.text, columnsText, conditionText, orderText]

/-- A blank ends a word. -/
theorem blank_ends_word (rest : List Char) : ∀ c ∈ (' ' :: rest).head?, isWordChar c = false := by
  rintro c ⟨⟩
  rfl

def conditionTokens : Option Condition → List Token
  | some c => [.word "WHERE", .word c.column, .sign '=', .sign '?']
  | none => []

def orderTokens : Option String → List Token
  | some column => [.word "ORDER", .word "BY", .word column]
  | none => []

def columnsTokens : Option (List String) → List Token
  | some names => nameTokens names
  | none => [.sign '*']

section

variable {q : Query}

theorem lex_conditionText (h : q.Plain) (rest : List Char) :
    lex (conditionText q.condition ++ rest) = conditionTokens q.condition ++ lex rest := by
  cases hcondition : q.condition with
  | none => rfl
  | some c =>
      simp only [conditionText, List.cons_append, List.append_assoc, List.nil_append]
      rw [lex_blank, lex_word (by decide) (blank_ends_word _), lex_blank,
        lex_word (h.condition c hcondition) (blank_ends_word _), lex_blank,
        lex_sign (by simp [IsSign]), lex_blank, lex_sign (by simp [IsSign])]
      rfl

theorem lex_orderText (h : q.Plain) : lex (orderText q.order) = orderTokens q.order := by
  cases horder : q.order with
  | none => rfl
  | some column =>
      have hlast : lex (column.toList ++ []) = .word column :: lex [] :=
        lex_word (h.order column horder) nofun
      rw [List.append_nil] at hlast
      rw [orderText, lex_blank, lex_word (by decide) (blank_ends_word _), lex_blank,
        lex_word (by decide) (blank_ends_word _), lex_blank, hlast]
      rfl

theorem lex_columnsText (h : q.Plain) {rest : List Char}
    (hrest : ∀ c ∈ rest.head?, isWordChar c = false) :
    lex (columnsText q.columns ++ rest) = columnsTokens q.columns ++ lex rest := by
  cases hcolumns : q.columns with
  | none => exact lex_sign (by simp [IsSign]) rest
  | some names =>
      obtain ⟨hsome, hwords⟩ := h.columns names hcolumns
      exact lex_joined hsome hwords hrest

/-- What stands behind the name of the table begins with a blank, if there is anything. -/
theorem head_clauses (q : Query) :
    (conditionText q.condition ++ orderText q.order).head? ≠ some identifierMark := by
  cases q.condition <;> cases q.order <;> simp [conditionText, orderText, identifierMark]

/-- The tokens of the text of a query. -/
theorem lex_text (h : q.Plain) :
    lex ({ q with table := quoteIdentifier q.table } : Query).text.toList =
      .word "SELECT" :: (columnsTokens q.columns ++ .word "FROM" :: .quoted q.table ::
        (conditionTokens q.condition ++ orderTokens q.order)) := by
  rw [toList_text, lex_word (by decide) (blank_ends_word _), lex_blank,
    lex_columnsText h (blank_ends_word _), lex_blank, lex_word (by decide) (blank_ends_word _),
    lex_blank, lex_quoted q.table (head_clauses q), lex_conditionText h, lex_orderText h]

theorem readCondition_tokens (q : Query) :
    readCondition (conditionTokens q.condition ++ orderTokens q.order) =
      .ok (q.condition.map Condition.column, orderTokens q.order) := by
  cases q.condition with
  | some c => rfl
  | none =>
      cases q.order with
      | none => rfl
      | some column => rfl

theorem readOrder_tokens (order : Option String) :
    readOrder (orderTokens order) = .ok (order, []) := by
  cases order <;> rfl

/-- The reader of a query reads its tokens behind the first word. -/
theorem readQuery_tokens (h : q.Plain) :
    readQuery (columnsTokens q.columns ++ .word "FROM" :: .quoted q.table ::
        (conditionTokens q.condition ++ orderTokens q.order)) =
      .ok (.query q.columns q.table (q.condition.map Condition.column) q.order) := by
  have hfrom (rest : List Token) : expectWord "from" (.word "FROM" :: rest) = .ok rest := by
    have hword : (Token.word "FROM").isWord "from" = true := by decide
    rw [expectWord, if_pos hword]
  cases hcolumns : q.columns with
  | none =>
      simp only [columnsTokens, List.cons_append, List.nil_append, readQuery, bind, Except.bind,
        pure, Except.pure, hfrom, readName, readCondition_tokens, readOrder_tokens]
  | some names =>
      obtain ⟨hsome, -⟩ := h.columns names hcolumns
      obtain ⟨name, more, hname⟩ := exists_word_of_nameTokens hsome
      have hnames (rest : List Token) (hrest : rest.head? ≠ some (.sign ',')) :
          readNames (nameTokens names ++ rest).length (nameTokens names ++ rest) =
            .ok (names, rest) := by
        have hle := length_le_nameTokens names
        apply readNames_nameTokens hsome _ hrest
        rw [List.length_append]
        omega
      have hnames := hnames (.word "FROM" :: .quoted q.table ::
        (conditionTokens q.condition ++ orderTokens q.order)) nofun
      rw [hname, List.cons_append] at hnames
      simp only [columnsTokens, hname, List.cons_append, readQuery, bind, Except.bind, pure,
        Except.pure]
      rw [hnames]
      simp only [hfrom, readName, readCondition_tokens, readOrder_tokens]

/-- The text of a plain query is read as that query, of just the table that it names. -/
theorem Query.read_text (h : q.Plain) :
    Statement.read ({ q with table := quoteIdentifier q.table } : Query).text =
      .ok (.query q.columns q.table (q.condition.map Condition.column) q.order) := by
  have hlex := lex_text h
  rw [lex] at hlex
  rw [Statement.read]
  simp only [hlex]
  exact readQuery_tokens h

end

/-! ## Running the text -/

/-- Whether a query fails, and how, does not depend on the value of its condition. -/
theorem select_congr_value (db : Database) (columns : Option (List String)) (name key : String)
    (v w : Value) (order : Option String) :
    (∃ fault, db.select ⟨columns, name, some ⟨key, v⟩, order⟩ = .error fault ∧
      db.select ⟨columns, name, some ⟨key, w⟩, order⟩ = .error fault) ∨
    ∃ rows others, db.select ⟨columns, name, some ⟨key, v⟩, order⟩ = .ok rows ∧
      db.select ⟨columns, name, some ⟨key, w⟩, order⟩ = .ok others := by
  unfold Database.select
  cases db.table? name with
  | none => exact .inl ⟨_, rfl, rfl⟩
  | some t =>
      dsimp only
      rw [pure_bind, pure_bind]
      generalize ((columns.getD t.columns).mapM _ : Except QueryFault _) = places
      cases places with
      | error fault => exact .inl ⟨fault, rfl, rfl⟩
      | ok places =>
          cases t.place key with
          | error fault => exact .inl ⟨fault, rfl, rfl⟩
          | ok place =>
              cases order with
              | none => exact .inr ⟨_, _, rfl, rfl⟩
              | some column =>
                  dsimp only
                  cases t.place column with
                  | error fault => exact .inl ⟨fault, rfl, rfl⟩
                  | ok place => exact .inr ⟨_, _, rfl, rfl⟩

/-- The database runs the text of a query, and the value for its mark, as that query. -/
theorem Database.run_text (db : Database) {q : Query} (h : q.Plain) {key s : String}
    (hcondition : q.condition = some ⟨key, .text s⟩) :
    db.run ({ q with table := quoteIdentifier q.table } : Query).text [.text s] = db.select q := by
  have hvalues : checkValues 1 [.text s] = .ok [.text s] := rfl
  obtain ⟨columns, name, condition, order⟩ := q
  obtain rfl : condition = some ⟨key, .text s⟩ := hcondition
  rw [Database.run, Query.read_text h]
  rcases select_congr_value db columns name key .null (.text s) order with
    ⟨fault, hnull, htext⟩ | ⟨rows, others, hnull, htext⟩
  · simp only [bind, Except.bind, Option.map_some, hnull, htext]
  · simp only [bind, Except.bind, Option.map_some, hnull, htext, hvalues]
    simp [htext]

end DocLedger.Index
