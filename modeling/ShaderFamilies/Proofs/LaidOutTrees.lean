import ShaderFamilies.DocumentTree
import ShaderFamilies.Proofs.DocumentGrammar
import ShaderFamilies.Proofs.EncodedText

/-!
# The texts of trees

The layout of a tree is a text of the value that the tree shows, with the
blanks of its lines between the parts.
-/

namespace ShaderFamilies

namespace Document

/-! ## Strings that need no escapes -/

/-- The characters stand for themselves in a string. -/
def Unescaped (content : String) : Prop :=
  ∀ character ∈ content.toList,
    0x20 ≤ character.toNat ∧ character ≠ '\"' ∧ character ≠ '\\'

instance (content : String) : Decidable (Unescaped content) :=
  List.decidableBAll _ content.toList

theorem contentText_flatMap {content : List Char}
    (hplain : ∀ character ∈ content,
      0x20 ≤ character.toNat ∧ character ≠ '\"' ∧ character ≠ '\\') :
    ContentText content (content.flatMap String.utf8EncodeChar) := by
  induction content with
  | nil => exact .nil
  | cons character content ih =>
      obtain ⟨⟨hcontrol, hquote, hslash⟩, hcontent⟩ := List.forall_mem_cons.mp hplain
      exact .cons (.plain hcontrol hquote hslash) (ih hcontent)

theorem Unescaped.stringText {content : String} (hplain : Unescaped content) :
    StringText content (Utf8.encode (quoted content)) := by
  have htext : Utf8.encode (quoted content) =
      quoteMark :: (content.toList.flatMap String.utf8EncodeChar ++ [quoteMark]) := by
    rw [quoted, Utf8.encode_append, Utf8.encode_append]
    rfl
  rw [htext]
  exact .quoted (contentText_flatMap hplain)

/-! ## What trees show -/

inductive Tree.ShowsPlain : Tree → Plain → Prop
  | label {name : String} : Unescaped name → ShowsPlain (.label name) (.text name)
  | number (value : UInt32) : ShowsPlain (.number value) (.integer false value.toNat)
  | truth (value : Bool) : ShowsPlain (.truth value) (.truth value)

section

variable {α : Type}

/-- Members with the same names, where each tree shows the value beside it. -/
inductive Paired (shows : Tree → α → Prop) :
    List (String × Tree) → List (String × α) → Prop
  | nil : Paired shows [] []
  | cons {name : String} {tree : Tree} {value : α} {members : List (String × Tree)}
      {values : List (String × α)} : Unescaped name → shows tree value →
      Paired shows members values →
        Paired shows ((name, tree) :: members) ((name, value) :: values)

end

inductive Tree.Shows : Tree → Value → Prop
  | plain {tree : Tree} {value : Plain} : tree.ShowsPlain value → Shows tree (.plain value)
  | record {members : List (String × Tree)} {values : List (String × Plain)} :
      Paired Tree.ShowsPlain members values → Shows (.record members) (.record values)

/-! ## Layouts -/

theorem Tree.ShowsPlain.plainText {tree : Tree} {value : Plain}
    (hshows : tree.ShowsPlain value) (depth : Nat) :
    PlainText value (Utf8.encode (tree.layout depth)) := by
  cases hshows with
  | label hplain => exact .text hplain.stringText
  | number value => exact .natural value.toNat
  | truth value => cases value <;> exact .truth _

theorem blanks_indentation (depth : Nat) : Blanks (Utf8.encode (indentation depth)) := by
  intro byte hmem
  rw [indentation, Utf8.encode, String.toList_ofList] at hmem
  obtain ⟨character, hcharacter, hbyte⟩ := List.mem_flatMap.mp hmem
  rw [List.eq_of_mem_replicate hcharacter] at hbyte
  rw [List.mem_singleton.mp hbyte]
  decide

theorem Blanks.append {first second : Bytes} (hfirst : Blanks first)
    (hsecond : Blanks second) : Blanks (first ++ second) := by
  intro byte hmem
  exact (List.mem_append.mp hmem).elim (hfirst byte) (hsecond byte)

def newline : Bytes :=
  Utf8.encode "\n"

theorem blanks_of_all {text : Bytes} (hall : text.all isBlank = true) : Blanks text :=
  List.all_eq_true.mp hall

theorem blanks_nil : Blanks [] :=
  blanks_of_all rfl

theorem blanks_newline : Blanks newline :=
  blanks_of_all (by decide)

section

variable {α : Type} {shows : Tree → α → Prop} {writes : α → Bytes → Prop} {depth : Nat}

/-- A member on a line of its own. -/
theorem memberText_layout {name : String} {tree : Tree} {value : α} {last : Bytes}
    (hname : Unescaped name) (hwrites : writes value (Utf8.encode (tree.layout depth)))
    (hlast : Blanks last) :
    MemberText writes (name, value)
      (newline ++ Utf8.encode (indentation depth ++ quoted name ++ ": " ++
        tree.layout depth) ++ last) := by
  have hbefore := blanks_newline.append (blanks_indentation depth)
  have hspace : Blanks (Utf8.encode " ") := blanks_of_all (by decide)
  have htext : MemberText writes (name, value) _ :=
    .named hbefore hname.stringText blanks_nil hspace hwrites hlast
  have hcolon : Utf8.encode ": " = colon :: Utf8.encode " " := by decide
  simpa [hcolon] using htext

theorem Paired.membersText {members : List (String × Tree)} {values : List (String × α)}
    (hpaired : Paired shows members values)
    (hwrites : ∀ tree value, shows tree value →
      writes value (Utf8.encode (tree.layout depth)))
    (hsome : members ≠ []) {last : Bytes} (hlast : Blanks last) :
    MembersText writes values
      (newline ++ Utf8.encode (layoutMembers depth members) ++ last) := by
  induction hpaired with
  | nil => exact absurd rfl hsome
  | @cons name tree value members values hname hshows hpaired ih =>
      have hvalue := hwrites tree value hshows
      cases hpaired with
      | nil => exact .last (memberText_layout hname hvalue hlast)
      | @cons next nextTree nextValue members values hnext hnextShows hpaired =>
          have htext := MembersText.more (memberText_layout hname hvalue blanks_nil)
            (ih (List.cons_ne_nil _ _))
          have hcomma : Utf8.encode ",\n" = comma :: newline := by decide
          simpa [layoutMembers, hcomma] using htext

/-- The layout of a record is an object with the values that its members show. -/
theorem Paired.objectText {members : List (String × Tree)} {values : List (String × α)}
    (hpaired : Paired shows members values)
    (hwrites : ∀ tree value, shows tree value →
      writes value (Utf8.encode (tree.layout (depth + 1)))) :
    ObjectText writes values (Utf8.encode ((Tree.record members).layout depth)) := by
  cases hpaired with
  | nil =>
      rw [Tree.layout]
      exact ObjectText.braced (.none blanks_nil)
  | cons hname hshows hpaired =>
      have htext := ObjectText.braced ((Paired.cons hname hshows hpaired).membersText hwrites
        (List.cons_ne_nil _ _) (blanks_newline.append (blanks_indentation depth)))
      have hopen : Utf8.encode "\x7b\n" = openBrace :: newline := by decide
      have hclose : Utf8.encode "\x7d" = [closeBrace] := by decide
      simpa [Tree.layout, hopen, hclose, newline] using htext

end

theorem Tree.Shows.valueText {tree : Tree} {value : Value} (hshows : tree.Shows value)
    (depth : Nat) : ValueText value (Utf8.encode (tree.layout depth)) := by
  cases hshows with
  | plain hshows => exact .plain (hshows.plainText depth)
  | record hpaired =>
      exact .record (hpaired.objectText fun _ _ hshows => hshows.plainText (depth + 1))

theorem Paired.documentText {members : List (String × Tree)}
    {values : List (String × Value)} (hpaired : Paired Tree.Shows members values) :
    DocumentText values (Tree.record members).text := by
  have hobject : ObjectText ValueText values (Utf8.encode (Tree.record members).text) :=
    hpaired.objectText fun _ _ hshows => hshows.valueText 1
  refine ⟨[], _, [], blanks_nil, hobject, blanks_nil, ?_⟩
  rw [List.nil_append, List.append_nil]

end Document

end ShaderFamilies
