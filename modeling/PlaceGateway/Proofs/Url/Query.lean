import PlaceGateway.Proofs.Digits
import PlaceGateway.Proofs.Url.Credentials
/-! Queries of written URLs: a query stands after the first question mark, up to the next hash. What comes
before it is escaped, or has no such marks. -/

namespace PlaceGateway.Url

variable {special cs ds : List Char} {scheme : String} {u : Url}

def IsClear (cs : List Char) : Prop := ∀ c ∈ cs, endsPath c = false

-- Along the list: there are finitely many characters, so they might all be tried instead.
instance (cs : List Char) : Decidable (IsClear cs) := List.decidableBAll (fun c => endsPath c = false) cs

theorem isClear_append : IsClear (cs ++ ds) ↔ IsClear cs ∧ IsClear ds := List.forall_mem_append

theorem isClear_toList_append {s t : String} : IsClear (s ++ t).toList ↔ IsClear s.toList ∧ IsClear t.toList := by
  rw [String.toList_append, isClear_append]

theorem isClear_takeWhile (cs : List Char) : IsClear (cs.takeWhile fun c => !endsPath c) := by
  intro c member
  simpa using List.mem_takeWhile_imp member

def escapeChars : List Char := '%' :: "0123456789ABCDEF".toList

theorem mem_escapeByte {c : Char} {b : UInt8} (member : c ∈ escapeByte b) : c ∈ escapeChars := by
  have digits : ∀ n < 16, upperHexDigit n ∈ escapeChars := by decide
  simp only [escapeByte, List.mem_cons, List.not_mem_nil, or_false] at member
  rcases member with rfl | rfl | rfl
  · exact List.mem_cons_self
  · exact digits _ (Nat.div_lt_of_lt_mul b.toNat_lt)
  · exact digits _ (Nat.mod_lt _ (by decide))

theorem mem_escape {c : Char} (member : c ∈ escape special cs) :
    c ∈ escapeChars ∨ (c ∈ cs ∧ c ∉ special) := by
  obtain ⟨d, own, member⟩ := List.mem_flatMap.mp member
  split at member
  · obtain ⟨b, -, member⟩ := List.mem_flatMap.mp member
    exact .inl (mem_escapeByte member)
  · rename_i plain
    cases List.mem_singleton.mp member
    simp only [Bool.or_eq_true, List.contains_iff_mem, not_or] at plain
    exact .inr ⟨own, plain.2⟩

theorem isClear_escape (listed : ∀ c ∈ cs, endsPath c = true → c ∈ special) : IsClear (escape special cs) := by
  have codes : IsClear escapeChars := by decide
  intro c member
  rcases mem_escape member with code | ⟨own, other⟩
  · exact codes c code
  · rw [Bool.eq_false_iff]
    exact fun mark => other (listed c own mark)

theorem isClear_escape_of_marks (question : '?' ∈ special) (hash : '#' ∈ special) :
    IsClear (escape special cs) := by
  refine isClear_escape fun c _ mark => ?_
  simp only [endsPath, Bool.or_eq_true, beq_iff_eq] at mark
  rcases mark with rfl | rfl
  · exact question
  · exact hash

theorem hash_notMem_query (special : Bool) (cs : List Char) : '#' ∉ escape (inQuery special) cs := by
  intro member
  rcases mem_escape member with code | ⟨-, other⟩
  · revert code
    decide
  · cases special <;> exact other (by decide)

/-- The marks that end the parts of a URL are escaped in what was read of the parts before. -/
structure IsEscaped (u : Url) : Prop where
  username : IsClear u.username.toList
  password : ∀ password, u.password = some password → IsClear password.toList
  path : IsClear u.path.text.toList
  query : ∀ query, u.query = some query → '#' ∉ query.toList

theorem rooted_isClear {segments : List String} (clear : ∀ segment ∈ segments, IsClear segment.toList) :
    IsClear (Path.rooted segments).text.toList := by
  intro c member
  rw [Path.text, String.toList_join, List.mem_flatMap] at member
  obtain ⟨text, listed, member⟩ := member
  obtain ⟨segment, own, rfl⟩ := List.mem_map.mp listed
  exact isClear_toList_append.mpr ⟨by decide, clear segment own⟩ c member

theorem resolve_isClear {done : List String} (clear : ∀ segment ∈ done, IsClear segment.toList)
    (segments : List (List Char)) : ∀ segment ∈ resolve done segments, IsClear segment.toList := by
  have last (rest : List (List Char)) {done : List String} (clear : ∀ segment ∈ done, IsClear segment.toList) :
      ∀ segment ∈ (if rest = [] then [""] else []) ++ done, IsClear segment.toList := by
    refine List.forall_mem_append.mpr ⟨?_, clear⟩
    split
    · exact List.forall_mem_singleton.mpr (by decide)
    · exact List.forall_mem_nil _
  induction segments generalizing done with
  | nil => exact clear
  | cons segment rest ih =>
      rw [resolve]
      split
      · exact ih (last rest fun text member => clear text (List.mem_of_mem_drop member))
      · split
        · exact ih (last rest clear)
        · refine ih (List.forall_mem_cons.mpr ⟨?_, clear⟩)
          rw [String.toList_ofList]
          exact isClear_escape_of_marks (by decide) (by decide)

theorem rootedPath_isClear (special : Bool) (cs : List Char) : IsClear (rootedPath special cs).text.toList := by
  refine rooted_isClear fun segment member => ?_
  exact resolve_isClear (List.forall_mem_nil _) _ segment (List.mem_reverse.mp member)

theorem pathOf_isClear (special : Bool) (cs : List Char) : IsClear (pathOf special cs).text.toList := by
  rw [pathOf]
  split
  · cases special <;> decide
  · exact rootedPath_isClear _ _

theorem hash_notMem_trailer {special : Bool} {query : String} (told : (trailer special cs).1 = some query) :
    '#' ∉ query.toList := by
  simp only [trailer] at told
  split at told
  · cases told
  · cases told
    rw [String.toList_ofList]
    exact hash_notMem_query _ _

theorem ofPath_isEscaped (scheme : String) {path : Path} (clear : IsClear path.text.toList) (cs : List Char) :
    (ofPath scheme path cs).IsEscaped where
  username := (by decide : IsClear "".toList)
  password := nofun
  path := clear
  query := fun _ told => hash_notMem_trailer told

theorem credentials_isClear {special : Bool} {rest : List Char} {credentials : Credentials}
    (split : Credentials.split special cs = .ok (credentials, rest)) :
    IsClear credentials.username.toList ∧
      ∀ password, credentials.password = some password → IsClear password.toList := by
  have own (cs : List Char) : IsClear (userinfo cs).toList := by
    rw [userinfo, String.toList_ofList]
    exact isClear_escape_of_marks (by decide) (by decide)
  by_cases told : credentials = .none
  · subst told
    exact ⟨by decide, nofun⟩
  · obtain ⟨before, -, -, -, rfl⟩ := signed_of_split split told
    refine ⟨own _, fun password has => ?_⟩
    obtain ⟨user, secret, -, -, -, rfl⟩ := login_of_password has
    exact own secret

theorem ofAuthority_isEscaped (parsed : ofAuthority scheme cs = .ok u) : u.IsEscaped := by
  obtain ⟨credentials, rest, host, port, tail, split, rfl⟩ := ofAuthority_spec parsed
  obtain ⟨username, password⟩ := credentials_isClear split
  exact ⟨username, password, pathOf_isClear _ _, fun _ told => hash_notMem_trailer told⟩

theorem ofText_isEscaped {text : String} (parsed : ofText text = .ok u) : u.IsEscaped := by
  rw [ofText] at parsed
  split at parsed
  · cases parsed
  · obtain ⟨host, rest, rfl⟩ := ofFile_spec parsed
    have escaped := ofPath_isEscaped "file" (pathOf_isClear true rest) rest
    exact ⟨escaped.username, escaped.password, escaped.path, escaped.query⟩
  · split at parsed
    · exact ofAuthority_isEscaped parsed
    · split at parsed
      · exact ofAuthority_isEscaped parsed
      · cases parsed
        exact ofPath_isEscaped _ (rootedPath_isClear _ _) _
      · cases parsed
        refine ofPath_isEscaped _ ?_ _
        rw [Path.text, String.toList_ofList]
        exact isClear_escape fun c member mark => absurd mark (by simp [isClear_takeWhile _ c member])

theorem toString_isClear (n : Nat) : IsClear (toString n).toList := by
  intro c member
  rw [Digits.toList_toString] at member
  have digit : c.isDigit = true := Nat.isDigit_of_mem_toDigits (by decide) (by decide) member
  have none_ := (visible_of_isDigit digit).2
  simp only [endsAuthority, Bool.or_eq_false_iff] at none_
  rw [endsPath, none_.1.2, none_.2]
  rfl

namespace IsEscaped

variable (escaped : u.IsEscaped)
include escaped

theorem credentials : IsClear u.credentialsText.toList := by
  rw [credentialsText]
  split <;> rename_i told
  · split
    · decide
    · simp only [isClear_toList_append]
      exact ⟨⟨escaped.username, by decide, escaped.password _ told⟩, by decide⟩
  · split
    · decide
    · simp only [isClear_toList_append]
      exact ⟨⟨escaped.username, by decide⟩, by decide⟩

theorem authority {host : Host} (clear : IsClear host.text.toList) : IsClear (u.authorityText host).toList := by
  rw [authorityText]
  split
  all_goals
    simp only [isClear_toList_append]
    refine ⟨⟨⟨by decide, escaped.credentials⟩, clear⟩, ?_⟩
  · exact ⟨by decide, toString_isClear _⟩
  · decide

theorem hierarchy (clear : ∀ host, u.host = some host → IsClear host.text.toList) :
    IsClear u.hierarchyText.toList := by
  have path := escaped.path
  rw [hierarchyText]
  split
  · rename_i host own
    exact isClear_toList_append.mpr ⟨escaped.authority (clear host own), path⟩
  · rename_i own
    rw [own] at path
    exact isClear_toList_append.mpr ⟨by decide, path⟩
  · exact path

end IsEscaped

def writtenQuery? (cs : List Char) : Option (List Char) :=
  match cs.dropWhile fun c => !endsPath c with
  | '?' :: rest => some (rest.takeWhile (· != '#'))
  | _ => none

theorem writtenQuery?_append (clear : IsClear cs) (rest : List Char) :
    writtenQuery? (cs ++ rest) = writtenQuery? rest := by
  have all : ∀ c ∈ cs, (!endsPath c) = true := by
    intro c member
    rw [clear c member]
    rfl
  rw [writtenQuery?, writtenQuery?, List.dropWhile_append_of_pos all]

theorem writtenQuery?_mark (none_ : '#' ∉ cs) (ends : ds = [] ∨ ∃ rest, ds = '#' :: rest) :
    writtenQuery? ('?' :: (cs ++ ds)) = some cs := by
  have after : ds.takeWhile (· != '#') = [] := by
    rcases ends with rfl | ⟨rest, rfl⟩ <;> rfl
  rw [writtenQuery?, List.dropWhile_cons_of_neg (by decide)]
  change some ((cs ++ ds).takeWhile (· != '#')) = some cs
  rw [List.takeWhile_append_of_pos (forall_bne none_), after, List.append_nil]

theorem writtenQuery?_text (escaped : u.IsEscaped) (scheme : IsClear u.scheme.toList)
    (host : ∀ host, u.host = some host → IsClear host.text.toList) :
    writtenQuery? u.text.toList = u.query.map String.toList := by
  have front : IsClear (u.scheme ++ ":" ++ u.hierarchyText).toList := by
    simp only [isClear_toList_append]
    exact ⟨⟨scheme, by decide⟩, escaped.hierarchy host⟩
  rw [text, String.append_assoc, String.toList_append, writtenQuery?_append front]
  cases told : u.query with
  | none =>
      cases u.fragment with
      | none => rfl
      | some fragment => simp [writtenQuery?, endsPath]
  | some query =>
      have none_ := escaped.query query told
      cases u.fragment with
      | none => simpa using writtenQuery?_mark none_ (.inl rfl)
      | some fragment => simpa using writtenQuery?_mark none_ (.inr ⟨fragment.toList, rfl⟩)

end PlaceGateway.Url
