import SelectCypher.Json.Decoder
import SelectCypher.Json.Text

namespace SelectCypher.Json.Decoder

/-!
# Written values are read

`Reads` says of a decoder that it reads some tokens as a value, whatever follows
them.  Each way to put decoders together has a rule that puts together what they
read, in the form in which values are written.
-/

/-- A decoder reads some tokens as a value, whatever follows them. -/
def Reads
    {α : Type}
    (decoder : Decoder α)
    (tokens : List Token)
    (value : α) :
    Prop :=
  ∀ rest, decoder.run (tokens ++ rest) = .ok (value, rest)

/-- What a decoder made of two does, once the first has read a value. -/
theorem run_bind
    {α β : Type}
    {first : Decoder α}
    {second : α → Decoder β}
    {tokens rest : List Token}
    {value : α}
    (read : first.run tokens = .ok (value, rest)) :
    (first >>= second).run tokens = (second value).run rest := by
  simp only [Bind.bind, andThen, read]

/-- A decoder that looks ahead does what it does for the token it sees. -/
theorem run_peek
    {β : Type}
    {second : Option Token → Decoder β}
    {tokens : List Token} :
    (peek >>= second).run tokens = (second tokens.head?).run tokens :=
  run_bind rfl

/-- A comma stands behind a row in front of others. -/
theorem separated_cons
    {others : List (List Token)}
    (first : List Token)
    (someOthers : others ≠ []) :
    separated (first :: others) = first ++ .comma :: separated others := by
  cases others with
  | nil =>
      exact absurd rfl someOthers
  | cons second more =>
      rfl

/-- A member of an object as it is written. -/
def written : Token × List Token → List Token :=
  fun (key, value) => key :: .colon :: value

/--
Members that stand one behind the other, each of a form that leads from what is known
in front of it to what is known behind it.
-/
inductive Members
    {κ σ : Type}
    (name? : Token → Option κ)
    (form : σ → κ → List Token → σ → Prop) :
    σ → List (Token × List Token) → σ → Prop
  | none {known : σ} :
      Members name? form known [] known
  | next
      {known later last : σ}
      {key : Token}
      {name : κ}
      {tokens : List Token}
      {others : List (Token × List Token)} :
      name? key = some name →
      form known name tokens later →
      Members name? form later others last →
      Members name? form known ((key, tokens) :: others) last

namespace Reads

variable {α β : Type}
variable {tokens more : List Token}
variable {value : α}

theorem pure (value : α) : Reads (Pure.pure value) [] value :=
  fun _ => rfl

theorem bind
    {first : Decoder α}
    {second : α → Decoder β}
    {result : β}
    (reads : Reads first tokens value)
    (readsMore : Reads (second value) more result) :
    Reads (first >>= second) (tokens ++ more) result := by
  intro rest
  rw [List.append_assoc, run_bind (reads (more ++ rest))]
  exact readsMore rest

/-- What a decoder does behind the last of its tokens. -/
theorem andReturn
    {decoder : Decoder α}
    {change : α → β}
    (reads : Reads decoder tokens value) :
    Reads (do return change (← decoder)) tokens (change value) := by
  intro rest
  rw [run_bind (reads rest)]
  rfl

theorem token
    {accept : Token → Option α}
    {found : Token}
    (accepts : accept found = some value) :
    Reads (Decoder.token accept) [found] value := by
  intro rest
  simp [Decoder.token, accepts]

theorem mark (expected : Token) : Reads (Decoder.mark expected) [expected] () :=
  token (if_pos rfl)

theorem string (content : String) : Reads Decoder.string [.string content] content :=
  token rfl

theorem bool (value : Bool) : Reads Decoder.bool [.bool value] value :=
  token rfl

/-- A decoder that looks ahead reads what it reads for the token it sees. -/
theorem peek
    {first : Token}
    {second : Option Token → Decoder β}
    {result : β}
    (reads : Reads (second (some first)) (first :: more) result) :
    Reads (Decoder.peek >>= second) (first :: more) result :=
  fun rest => run_peek.trans (reads rest)

/-- A value that may be missing is written as it is. -/
theorem optional
    {decoder : Decoder α}
    {first : Token}
    (reads : Reads decoder (first :: more) value)
    (notNull : first ≠ .null) :
    Reads (Decoder.optional decoder) (first :: more) (some value) := by
  apply peek
  rw [if_neg (by simpa using notNull)]
  exact reads.andReturn

theorem optional_null (decoder : Decoder α) :
    Reads (Decoder.optional decoder) [.null] none := by
  apply peek
  rw [if_pos rfl]
  exact (mark .null).bind (Reads.pure none)

/-- A field that is read for the first time. -/
theorem once
    {decoder : Decoder α}
    (reads : Reads decoder tokens value) :
    Reads (Decoder.once none decoder) tokens (some value) :=
  reads.andReturn

/-- A value inside one more bracket, where one is allowed. -/
theorem nested
    {inside : Nat → Decoder α}
    {remaining : Nat}
    (reads : Reads (inside remaining) tokens value) :
    Reads (Decoder.nested (remaining + 1) inside) tokens value :=
  reads

/-- A record that is written by name. -/
theorem record
    {byName inOrder : Nat → Decoder α}
    {remaining : Nat}
    (reads : Reads (byName remaining) (.openObject :: more) value) :
    Reads (Decoder.record (remaining + 1) byName inOrder) (.openObject :: more) value :=
  peek (nested reads)

/-- A record that is written in order. -/
theorem recordInOrder
    {byName inOrder : Nat → Decoder α}
    {remaining : Nat}
    (reads : Reads (inOrder remaining) (.openArray :: more) value) :
    Reads (Decoder.record (remaining + 1) byName inOrder) (.openArray :: more) value :=
  peek (nested reads)

/-- A kind with content is written as the only member of an object. -/
theorem tagged
    {bare : String → Option α}
    {content : Nat → String → Decoder α}
    {remaining : Nat}
    {tag : String}
    (reads : Reads (content remaining tag) tokens value) :
    Reads (Decoder.choice (remaining + 1) bare content) (Json.tagged tag tokens) value := by
  have inside :
      Reads
        (do
          Decoder.mark .openObject
          let name ← Decoder.string
          Decoder.mark .colon
          let found ← content remaining name
          Decoder.mark .closeObject
          return found)
        (Token.openObject :: .string tag :: .colon :: (tokens ++ [.closeObject]))
        value := by
    apply (mark .openObject).bind
    apply (string tag).bind
    apply (mark .colon).bind
    apply reads.bind
    apply (mark .closeObject).bind
    exact Reads.pure value
  exact peek (nested inside)

/-- A kind without content is written as its tag. -/
theorem bare
    {bare : String → Option α}
    {content : Nat → String → Decoder α}
    {allowance : Nat}
    {tag : String}
    (known : bare tag = some value) :
    Reads (Decoder.choice allowance bare content) [.string tag] value := by
  apply peek
  intro rest
  rw [run_bind (string tag rest), known]
  rfl

/-! ### Objects and arrays -/

section Members

variable {κ σ : Type}
variable {name? : Token → Option κ}
variable {member : σ → κ → Decoder σ}
variable {known later last : σ}

/-- A member in front of a comma. -/
theorem membersFrom_comma
    {key : Token}
    {name : κ}
    (named : name? key = some name)
    (reads : Reads (member known name) tokens later)
    (rest : List Token) :
    membersFrom name? member known (key :: .colon :: tokens ++ .comma :: rest) =
      membersFrom name? member later rest := by
  rw [List.cons_append, List.cons_append, membersFrom]
  simp only [named]
  split
  all_goals
    rename_i memberRead
    rw [reads (.comma :: rest)] at memberRead
    cases memberRead
  · rfl
  · rename_i notComma _
    exact absurd rfl (notComma _ _)

/-- The last member of an object. -/
theorem membersFrom_last
    {key : Token}
    {name : κ}
    (named : name? key = some name)
    (reads : Reads (member known name) tokens last)
    (rest : List Token) :
    membersFrom name? member known (key :: .colon :: tokens ++ .closeObject :: rest) =
      .ok (last, rest) := by
  rw [List.cons_append, List.cons_append, membersFrom]
  simp only [named]
  split
  all_goals
    rename_i memberRead
    rw [reads (.closeObject :: rest)] at memberRead
    cases memberRead
  · rfl
  · rename_i notClosed
    exact absurd rfl (notClosed _ _)

theorem membersFrom_members
    {members : List (Token × List Token)}
    (reads :
      Members name? (fun known name => Reads (member known name)) known members last)
    (someMembers : members ≠ [])
    (rest : List Token) :
    membersFrom name? member known
        (separated (members.map written) ++ .closeObject :: rest) =
      .ok (last, rest) := by
  induction reads with
  | none =>
      exact absurd rfl someMembers
  | @next known later last key name tokens others named first more inductionHypothesis =>
      cases others with
      | nil =>
          cases more
          exact membersFrom_last named first rest
      | cons second behind =>
          have inside := inductionHypothesis (by simp)
          rw [List.map_cons, separated_cons _ (by simp), List.append_assoc]
          exact (membersFrom_comma named first _).trans inside

/-- An object that is not closed at once has members. -/
theorem run_members
    {first : Token}
    (notClosed : first ≠ .closeObject)
    (rest : List Token) :
    (Decoder.members name? member known).run (.openObject :: first :: rest) =
      membersFrom name? member known (first :: rest) := by
  cases first with
  | closeObject =>
      exact absurd rfl notClosed
  | _ =>
      rfl

/-- An object of members that are read, none of which is named by its end, is read. -/
theorem members
    {members : List (Token × List Token)}
    (reads :
      Members name? (fun known name => Reads (member known name)) known members last)
    (notClosing : name? .closeObject = Option.none) :
    Reads (Decoder.members name? member known)
      (.openObject :: separated (members.map written) ++ [.closeObject]) last := by
  intro rest
  cases reads with
  | none =>
      rfl
  | @next _ _ _ key name tokens others named first more =>
      have notClosed : key ≠ .closeObject := by
        rintro rfl
        rw [notClosing] at named
        cases named
      have inside := membersFrom_members (.next named first more) (by simp) rest
      have shape :
          ∃ later, separated (((key, tokens) :: others).map written) = key :: later := by
        cases others with
        | nil =>
            exact ⟨_, rfl⟩
        | cons second behind =>
            exact ⟨_, rfl⟩
      obtain ⟨later, shape⟩ := shape
      rw [shape] at inside ⊢
      simp only [List.cons_append, List.append_assoc]
      exact (run_members notClosed _).trans inside

end Members

/-- Members that are read by name, one behind the other. -/
inductive Fields
    {σ : Type}
    (member : σ → String → Decoder σ) :
    σ → List (String × List Token) → σ → Prop
  | none {known : σ} :
      Fields member known [] known
  | next
      {known later last : σ}
      {name : String}
      {tokens : List Token}
      {others : List (String × List Token)} :
      Reads (member known name) tokens later →
      Fields member later others last →
      Fields member known ((name, tokens) :: others) last

/-- An object of members that are read by name is read. -/
theorem fields
    {σ : Type}
    {member : σ → String → Decoder σ}
    {known last : σ}
    {members : List (String × List Token)}
    (reads : Fields member known members last) :
    Reads (Decoder.fields member known) (object members) last := by
  have keyed :
      Members stringContent? (fun known name => Reads (member known name)) known
        (members.map fun member => (.string member.1, member.2)) last := by
    induction reads with
    | none =>
        exact .none
    | next first _ inductionHypothesis =>
        exact .next rfl first inductionHypothesis
  have whole := Reads.members keyed rfl
  rw [List.map_map] at whole
  exact whole

/-- An item in front of a comma. -/
theorem itemsFrom_comma
    {item : Decoder α}
    (read : List α)
    (reads : Reads item tokens value)
    (rest : List Token) :
    itemsFrom item read (tokens ++ .comma :: rest) =
      itemsFrom item (value :: read) rest := by
  rw [itemsFrom]
  split
  all_goals
    rename_i itemRead
    rw [reads (.comma :: rest)] at itemRead
    cases itemRead
  · rfl
  · rename_i notComma _
    exact absurd rfl (notComma _ _)

/-- The last item of an array. -/
theorem itemsFrom_last
    {item : Decoder α}
    (read : List α)
    (reads : Reads item tokens value)
    (rest : List Token) :
    itemsFrom item read (tokens ++ .closeArray :: rest) =
      .ok ((value :: read).reverse, rest) := by
  rw [itemsFrom]
  split
  all_goals
    rename_i itemRead
    rw [reads (.closeArray :: rest)] at itemRead
    cases itemRead
  · rfl
  · rename_i notClosed
    exact absurd rfl (notClosed _ _)

/-- Items that are read one behind the other, up to the end of an array. -/
theorem itemsFrom_items
    {item : Decoder α}
    {entries : List (List Token × α)}
    (read : List α)
    (reads : ∀ entry ∈ entries, Reads item entry.1 entry.2)
    (someEntries : entries ≠ [])
    (rest : List Token) :
    itemsFrom item read (separated (entries.map Prod.fst) ++ .closeArray :: rest) =
      .ok (read.reverse ++ entries.map Prod.snd, rest) := by
  induction entries generalizing read with
  | nil =>
      exact absurd rfl someEntries
  | cons entry others inductionHypothesis =>
      simp only [List.forall_mem_cons] at reads
      cases others with
      | nil =>
          simpa [separated] using itemsFrom_last read reads.1 rest
      | cons second behind =>
          have inside := inductionHypothesis (entry.2 :: read) reads.2 (by simp)
          rw [List.map_cons, separated_cons _ (by simp), List.append_assoc]
          rw [List.reverse_cons, List.append_assoc] at inside
          exact (itemsFrom_comma read reads.1 _).trans inside

/-- An array that is not closed at once has items. -/
theorem run_list
    {item : Decoder α}
    {first : Token}
    (notClosed : first ≠ .closeArray)
    (rest : List Token) :
    (Decoder.list item).run (.openArray :: first :: rest) =
      itemsFrom item [] (first :: rest) := by
  cases first with
  | closeArray =>
      exact absurd rfl notClosed
  | _ =>
      rfl

/-- An array of items that are read, none of which begins like its end, is read. -/
theorem items
    {item : Decoder α}
    (entries : List (List Token × α))
    (reads : ∀ entry ∈ entries, Reads item entry.1 entry.2)
    (opens :
      ∀ entry ∈ entries, ∃ first more, entry.1 = first :: more ∧ first ≠ .closeArray) :
    Reads (Decoder.list item) (array (entries.map Prod.fst)) (entries.map Prod.snd) := by
  intro rest
  cases entries with
  | nil =>
      rfl
  | cons entry others =>
      have inside := itemsFrom_items [] reads (by simp) rest
      obtain ⟨first, more, begins, notClosed⟩ := opens entry (by simp)
      have shape :
          ∃ later, separated ((entry :: others).map Prod.fst) = first :: later := by
        cases others with
        | nil =>
            exact ⟨more, begins⟩
        | cons second behind =>
            rw [List.map_cons, separated_cons _ (by simp), begins]
            exact ⟨_, rfl⟩
      obtain ⟨later, shape⟩ := shape
      rw [shape] at inside
      simp only [array, shape, List.cons_append, List.append_assoc]
      exact (run_list notClosed _).trans inside

/-- An array of values that are read as they are written is read. -/
theorem list
    {item : Decoder α}
    {write : α → List Token}
    {values : List α}
    (reads : ∀ value ∈ values, Reads item (write value) value)
    (opens :
      ∀ value ∈ values,
        ∃ first more, write value = first :: more ∧ first ≠ .closeArray) :
    Reads (Decoder.list item) (array (values.map write)) values := by
  have entries :=
    items (values.map fun value => (write value, value))
      (List.forall_mem_map.mpr reads) (List.forall_mem_map.mpr opens)
  simpa [Function.comp_def] using entries

end Reads

end SelectCypher.Json.Decoder
