import BrokenLinks.Proofs.Document.Piece
import BrokenLinks.Proofs.Repair.Settlement

/-! What a repair promises of each link in a document of plain texts and inline links.

The links to missing pages are led to Wikidata and everything else stays as it is. The promise is
kept up to the first link of another kind before a link to a page: the two are judged as one, and
only if that one and the link to a page would both be left alone does it make no difference. -/

set_option autoImplicit false

namespace BrokenLinks

variable {isLocal : List Char → Bool} {text : List Char} {link : Link}

namespace Document

def account (isLocal : List Char → Bool) (document : Document) : List Char × Nat :=
  let verdicts := document.links.map (·.verdict isLocal)
  (document.settle verdicts, verdicts.count .missing)

theorem account_ofText_of_next?_eq_none (none : Link.next? text = none) :
    (ofText text).account isLocal = (text, 0) := by
  rw [ofText_of_next?_eq_none none]
  simp [account, settle, links]

theorem account_ofText_append (isLocal : List Char → Bool) {gap : List Char}
    (rest : List Char) (bare : '[' ∉ gap) (canonical : link.Canonical) :
    (ofText (gap ++ link.toText ++ rest)).account isLocal =
      (gap ++ link.settled (link.verdict isLocal) ++ ((ofText rest).account isLocal).1,
        ((ofText rest).account isLocal).2 + if link.verdict isLocal = .missing then 1 else 0) := by
  rw [ofText_append rest bare canonical]
  simp [account, settle, links, List.count_cons]

theorem unmarked_settle {document : Document} (unmarked : '!' ∉ document.toText) :
    '!' ∉ document.settle (document.links.map (·.verdict isLocal)) := by
  rw [settle_map_verdict]
  obtain ⟨linked, remainder⟩ := document
  simp only [toText, spans, List.mem_append, List.mem_flatMap, List.mem_map, not_or] at unmarked ⊢
  refine ⟨?_, unmarked.2⟩
  rintro ⟨-, ⟨⟨gap, link⟩, inText, rfl⟩, marked⟩
  refine unmarked.1 ⟨(gap, link), inText, ?_⟩
  have bases : ∀ base ∈ WikidataPage.bases, '!' ∉ base := by decide
  obtain ⟨base, known, url⟩ := link.page_url
  have unmarkedBase := bases base known
  simp only [Link.target] at marked
  split at marked <;>
    simpa [Span.toText, Link.toText, Link.fileName, Link.opening, Link.middle, Link.closing, url,
      unmarkedBase] using marked

end Document

namespace Repair

theorem ofText_of_unmarked (unmarked : '!' ∉ text) :
    ((ofText isLocal text).text, (ofText isLocal text).changes) =
      (Document.ofText text).account isLocal := by
  have settled : '!' ∉ (Document.ofText text).settle
      ((Document.ofText text).links.map (·.verdict isLocal)) :=
    Document.unmarked_settle ((Document.toText_ofText text).symm ▸ unmarked)
  have noLink : ¬ Substitution.placeholderLink.pattern <:+: _ := fun occurs =>
    settled (occurs.subset (by decide))
  have noTarget : ¬ Substitution.placeholderTarget.pattern <:+: _ := fun occurs =>
    settled (occurs.subset (by decide))
  simp only [ofText_eq, Document.repair, Document.account, Substitution.apply,
    Text.replaceAll_eq_self noLink, Text.replaceAll_eq_self noTarget,
    Substitution.changes_eq_zero_iff.2 noLink, Substitution.changes_eq_zero_iff.2 noTarget]
  rfl

end Repair

namespace Piece

variable {piece : Piece}

def broken? (isLocal : List Char → Bool) (piece : Piece) : Option Link :=
  piece.page?.filter fun link => !link.isExternal && !isLocal link.fileName

def promised (isLocal : List Char → Bool) (piece : Piece) : List Char :=
  match piece.broken? isLocal with
  | some link => Link.opening ++ link.label ++ Link.middle ++ link.page.url ++ [')']
  | none => piece.toText

theorem broken?_of_other (other : piece.page? = none) : piece.broken? isLocal = none := by
  simp [broken?, other]

theorem promised_of_other (other : piece.page? = none) :
    piece.promised isLocal = piece.toText := by
  rw [promised, broken?_of_other other]

theorem broken?_of_page (page : piece.page? = some link) :
    piece.broken? isLocal = if link.verdict isLocal = .missing then some link else none := by
  cases external : link.isExternal <;> cases found : isLocal link.fileName <;>
    simp [broken?, page, Link.verdict, external, found]

theorem promised_of_page (page : piece.page? = some link) :
    piece.promised isLocal = link.settled (link.verdict isLocal) := by
  rw [promised, broken?_of_page page]
  cases link.verdict isLocal <;> simp [Link.settled, toText_of_page? page]

end Piece

/-! ## One link at a time -/

theorem Link.canonical_joined {passed : Link} (canonical : passed.Canonical) {piece : Piece}
    (page : piece.page? = some link) : (passed.joined link).Canonical := by
  obtain ⟨label, -, -, sameLabel, -⟩ := Piece.eq_link_of_page? page
  refine ⟨canonical.label, ?_⟩
  have inLabel : ')' ∉ link.label := sameLabel ▸ label.not_mem (by decide)
  have inStem : ')' ∉ link.stem := mt (List.mem_append_left _) (Piece.not_mem_fileName page)
  have outside : ')' ∉ opening ++ link.label ++ middle ++ link.stem := by
    simp [opening, middle, inLabel, inStem]
  simpa [joined] using not_closing_infix_append outside canonical.stem

/-- Up to the first parenthesis that closes, an address of Wikidata is longer than the target that
it takes the place of. -/
theorem Link.page_url_append_ne {stem more rest front rest' : List Char}
    (split : link.stem ++ rest = stem ++ ')' :: more) (inStem : ')' ∉ stem)
    (inFront : ')' ∉ front) (short : front.length ≤ stem.length + 3) :
    link.page.url ++ rest ≠ front ++ ')' :: rest' := by
  have bases : ∀ base ∈ WikidataPage.bases, ')' ∉ base ∧ 3 < base.length := by decide
  obtain ⟨base, known, url⟩ := link.page_url
  obtain ⟨inBase, long⟩ := bases base known
  intro same
  rw [url, List.append_assoc, split, ← List.append_assoc] at same
  have first : ')' ∉ base ++ stem := by simp [inBase, inStem]
  have ends := congrArg List.length (Text.eq_of_append_cons_eq first inFront same).1
  rw [List.length_append] at ends
  omega

def opened : Option Link → List Char
  | none => []
  | some passed => Link.opening ++ passed.label ++ Link.middle ++ passed.stem

/-- While a link is open, no link to a page has ended. -/
def Unfinished (state : Option Link) : Prop :=
  ∀ passed ∈ state, passed.Canonical ∧ ')' ∈ passed.stem

theorem unfinished_none : Unfinished none := by
  simp [Unfinished]

theorem unfinished_of_link {label target : PlainText}
    (other : (Piece.link label target).page? = none) :
    Unfinished (some ⟨label.chars, target.chars ++ [')']⟩) := by
  rintro - ⟨⟩
  have inTarget := Piece.not_closing_infix_target (Piece.not_pageEnding_suffix other)
  exact ⟨⟨label.middle_absent, inTarget⟩, by simp⟩

theorem Unfinished.append {passed : Link} (unfinished : Unfinished (some passed)) {piece : Piece}
    (other : piece.page? = none) :
    Unfinished (some ⟨passed.label, passed.stem ++ piece.toText⟩) := by
  rintro - ⟨⟩
  obtain ⟨canonical, ended⟩ := unfinished passed rfl
  exact ⟨⟨canonical.label, Piece.not_closing_infix_append other canonical.stem⟩, by simp [ended]⟩

theorem account_of_unfinished {gap : List Char} (bare : '[' ∉ gap) {passed : Link}
    (unfinished : Unfinished (some passed)) :
    (Document.ofText (gap ++ opened (some passed))).account isLocal =
      (gap ++ opened (some passed), 0) := by
  obtain ⟨canonical, -⟩ := unfinished passed rfl
  have next := Link.next?_of_middle passed.stem bare canonical.label
  rw [Text.cut?_eq_none_iff.2 canonical.stem, Option.map_none] at next
  refine Document.account_ofText_of_next?_eq_none ?_
  simpa [opened] using next

theorem toText_append_ne_settled (inTarget : ')' ∉ link.fileName) (rest rest' : List Char) :
    link.toText ++ rest ≠ link.settled .missing ++ rest' := by
  -- Up to the first parenthesis that closes, the address is longer than the target.
  have inStem : ')' ∉ link.stem := mt (List.mem_append_left _) inTarget
  intro same
  have reads : link.page.url ++ ')' :: rest' = link.fileName ++ ')' :: rest := by
    simpa [Link.settled, Link.toText_eq] using same.symm
  exact Link.page_url_append_ne rfl inStem inTarget (by simp [Link.fileName]) reads

theorem settled_joined_append_ne {passed : Link} (ended : ')' ∈ passed.stem)
    (rest rest' : List Char) :
    (passed.joined link).settled .missing ++ rest ≠ opened (some passed) ++ rest' := by
  -- Here too the address is longer, since the stem of a link that is open holds a parenthesis.
  obtain ⟨stem, more, atEnd, inStem⟩ := List.eq_append_cons_of_mem ended
  have split : (passed.joined link).stem ++ ')' :: rest = stem ++ ')' ::
      (more ++ Link.opening ++ link.label ++ Link.middle ++ link.stem ++ ')' :: rest) := by
    simp [Link.joined, atEnd]
  intro same
  have reads : (passed.joined link).page.url ++ ')' :: rest = stem ++ ')' :: (more ++ rest') := by
    simpa [Link.settled, opened, Link.joined, atEnd] using same
  exact Link.page_url_append_ne split inStem inStem (by omega) reads

theorem account_joined_iff {gap : List Char} (bare : '[' ∉ gap) {passed : Link}
    (unfinished : Unfinished (some passed)) {piece : Piece} (page : piece.page? = some link)
    {rest rest' : List Char} {changes : Nat} :
    (Document.ofText (gap ++ opened (some passed) ++ (piece.toText ++ rest))).account isLocal =
        (gap ++ opened (some passed) ++ (piece.promised isLocal ++ rest'),
          changes + if link.verdict isLocal = .missing then 1 else 0) ↔
      ((passed.joined link).Led (isLocal · = true) ∧ link.Led (isLocal · = true)) ∧
        (Document.ofText rest).account isLocal = (rest', changes) := by
  obtain ⟨canonical, ended⟩ := unfinished passed rfl
  have joinedText : (passed.joined link).toText = opened (some passed) ++ link.toText := by
    simp [opened, Link.joined, Link.toText]
  have joinedAccount := Document.account_ofText_append isLocal rest bare
    (Link.canonical_joined canonical page)
  rw [joinedText] at joinedAccount
  simp only [List.append_assoc] at joinedAccount
  simp only [List.append_assoc, Piece.toText_of_page? page, Piece.promised_of_page page,
    joinedAccount, Prod.mk.injEq, List.append_cancel_left_eq]
  -- Whichever of the two links is not led shows in the text, whatever follows.
  by_cases joinedLed : (passed.joined link).Led (isLocal · = true)
  · rw [Link.settled_of_led joinedLed, if_neg (Link.verdict_ne_missing_iff.2 joinedLed), joinedText]
    by_cases led : link.Led (isLocal · = true)
    · have kept := Link.verdict_ne_missing_iff.2 led
      simp [Link.settled_of_led led, kept, joinedLed, led, Prod.ext_iff]
    · have missing := Classical.not_not.1 (mt Link.verdict_ne_missing_iff.1 led)
      simp only [led, missing, and_false, false_and, iff_false, not_and, List.append_assoc,
        List.append_cancel_left_eq]
      exact fun same => absurd same (toText_append_ne_settled (Piece.not_mem_fileName page) _ _)
  · have missing := Classical.not_not.1 (mt Link.verdict_ne_missing_iff.1 joinedLed)
    simp only [joinedLed, missing, false_and, iff_false, not_and]
    exact fun same => absurd same (settled_joined_append_ne ended _ _)

theorem account_page_iff {gap : List Char} (bare : '[' ∉ gap) {piece : Piece}
    (page : piece.page? = some link) {rest rest' : List Char} {changes : Nat} :
    (Document.ofText (gap ++ (piece.toText ++ rest))).account isLocal =
        (gap ++ (piece.promised isLocal ++ rest'),
          changes + if link.verdict isLocal = .missing then 1 else 0) ↔
      (Document.ofText rest).account isLocal = (rest', changes) := by
  have linkAccount := Document.account_ofText_append isLocal rest bare
    (Piece.canonical_of_page? page)
  rw [List.append_assoc] at linkAccount
  rw [Piece.toText_of_page? page, Piece.promised_of_page page, linkAccount]
  simp [Prod.ext_iff]

/-- A document, with a gap before it and perhaps a link open, is repaired as promised exactly when
no overrun makes a difference. -/
theorem account_opened_iff (isLocal : List Char → Bool) (pieces : List Piece)
    {gap : List Char} (bare : '[' ∉ gap) {state : Option Link} (unfinished : Unfinished state) :
    (Document.ofText (gap ++ opened state ++ pieces.flatMap Piece.toText)).account isLocal =
        (gap ++ opened state ++ pieces.flatMap (Piece.promised isLocal),
          pieces.countP fun piece => (piece.broken? isLocal).isSome) ↔
      ∀ overrun ∈ overrunsFrom state pieces,
        overrun.1.Led (isLocal · = true) ∧ overrun.2.Led (isLocal · = true) := by
  -- Plain text joins the gap, a link of another kind opens, and a link to a page closes.
  induction pieces generalizing gap state with
  | nil =>
    cases state with
    | none =>
      have unread : Link.next? gap = none := Link.next?_eq_none_iff.2 fun link occurs =>
        bare (occurs.subset (by simp [Link.toText, Link.opening]))
      simpa [opened, overrunsFrom] using Document.account_ofText_of_next?_eq_none unread
    | some passed => simpa [overrunsFrom] using account_of_unfinished bare unfinished
  | cons piece pieces ih =>
    have changesOf {link : Link} (page : piece.page? = some link) :
        (if (piece.broken? isLocal).isSome then 1 else 0) =
          if link.verdict isLocal = .missing then 1 else 0 := by
      rw [Piece.broken?_of_page page]
      split <;> rfl
    simp only [List.flatMap_cons, List.countP_cons]
    cases page : piece.page? with
    | none =>
      rw [Piece.promised_of_other page, Piece.broken?_of_other page]
      cases state with
      | none =>
        cases piece with
        | plain text =>
          have plain := text.not_mem (c := '[') (by decide)
          have bare' : '[' ∉ gap ++ text.chars := by simp [bare, plain]
          simpa [opened, overrunsFrom, Piece.toText] using ih bare' unfinished_none
        | link label target =>
          have step := ih bare (unfinished_of_link page)
          simpa [opened, overrunsFrom, page, Piece.toText] using step
      | some passed =>
        have step := ih bare (unfinished.append page)
        simpa [opened, overrunsFrom, page] using step
    | some link =>
      have step := ih List.not_mem_nil unfinished_none
      simp only [List.nil_append, opened] at step
      rw [changesOf page]
      cases state with
      | none =>
        have same : overrunsFrom none (piece :: pieces) = overrunsFrom none pieces := by
          obtain ⟨label, target, rfl, -, -⟩ := Piece.eq_link_of_page? page
          simp [overrunsFrom, page]
        rw [same, ← step, opened, List.append_nil]
        exact account_page_iff bare page
      | some passed =>
        have same : overrunsFrom (some passed) (piece :: pieces) =
            (passed.joined link, link) :: overrunsFrom none pieces := by
          simp [overrunsFrom, page]
        rw [same, List.forall_mem_cons, ← step]
        exact account_joined_iff bare unfinished page

theorem unmarked_pieces (pieces : List Piece) : '!' ∉ pieces.flatMap Piece.toText := by
  rw [List.mem_flatMap]
  rintro ⟨piece, -, marked⟩
  cases piece with
  | plain text => exact text.not_mem (by decide) marked
  | link label target =>
    have inLabel := label.not_mem (c := '!') (by decide)
    have inTarget := target.not_mem (c := '!') (by decide)
    simp [Piece.toText, Link.opening, Link.middle, inLabel, inTarget] at marked

theorem Repair.ofText_pieces_eq_iff (isLocal : List Char → Bool) (pieces : List Piece) :
    ((ofText isLocal (pieces.flatMap Piece.toText)).text,
        (ofText isLocal (pieces.flatMap Piece.toText)).changes) =
          (pieces.flatMap (Piece.promised isLocal),
            pieces.countP fun piece => (piece.broken? isLocal).isSome) ↔
      ∀ overrun ∈ overruns pieces,
        overrun.1.Led (isLocal · = true) ∧ overrun.2.Led (isLocal · = true) := by
  have whole := account_opened_iff isLocal pieces List.not_mem_nil unfinished_none
  rw [ofText_of_unmarked (unmarked_pieces pieces)]
  simpa [opened, overruns] using whole

/-- A document is repaired as promised exactly when each overrun would be left alone, and so would
the link to a page at its end. -/
theorem Repair.as_promised_iff (isLocal : List Char → Bool) (pieces : List Piece) :
    ((ofText isLocal (pieces.flatMap Piece.toText)).text =
          pieces.flatMap (Piece.promised isLocal) ∧
        (ofText isLocal (pieces.flatMap Piece.toText)).changes =
          pieces.countP fun piece => (piece.broken? isLocal).isSome) ↔
      ∀ overrun ∈ overruns pieces,
        overrun.1.Led (isLocal · = true) ∧ overrun.2.Led (isLocal · = true) := by
  rw [← Prod.mk.injEq]
  exact ofText_pieces_eq_iff isLocal pieces

/-- Where every link is a link to a page, the promise is kept. -/
theorem Repair.as_promised_of_pages (isLocal : List Char → Bool) {pieces : List Piece}
    (pages : ∀ piece ∈ pieces, (∃ text, piece = .plain text) ∨ ∃ link, piece.page? = some link) :
    (ofText isLocal (pieces.flatMap Piece.toText)).text = pieces.flatMap (Piece.promised isLocal) ∧
      (ofText isLocal (pieces.flatMap Piece.toText)).changes =
        pieces.countP fun piece => (piece.broken? isLocal).isSome := by
  rw [← Prod.mk.injEq, ofText_pieces_eq_iff, overruns_eq_nil pages]
  exact List.forall_mem_nil _

/-- A link to a page of the directory is lost behind a link to a file of another kind. -/
theorem Repair.not_always_as_promised :
    ¬ ∀ (isLocal : List Char → Bool) (pieces : List Piece),
      (ofText isLocal (pieces.flatMap Piece.toText)).text =
          pieces.flatMap (Piece.promised isLocal) ∧
        (ofText isLocal (pieces.flatMap Piece.toText)).changes =
          pieces.countP fun piece => (piece.broken? isLocal).isSome := by
  intro always
  have kept := always (· = "Q2.md".toList) [
    .link ⟨"a".toList, by decide⟩ ⟨"x.html".toList, by decide⟩, .plain ⟨" ".toList, by decide⟩,
    .link ⟨"b".toList, by decide⟩ ⟨"Q2.md".toList, by decide⟩]
  revert kept
  decide +kernel

end BrokenLinks
