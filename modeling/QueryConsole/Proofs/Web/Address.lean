import QueryConsole.Proofs.Web.Host
/-!
# Addresses as they are written

The normal form of an address is that of a web address with a host
(`Address.isHosted_text`): after the scheme and the two slashes comes the host,
or a user and the host, and what follows the host is a port or the path.
-/

namespace QueryConsole.Web

/-- **A web address with a host.** The user, if there is one, ends in the only
`@` before the path; the host is the text up to the next colon outside of
brackets or the next slash. -/
inductive IsHosted : Text → Prop
  | intro {scheme : String} {user host rest : Text} {next : CodePoint}
      (web : scheme ∈ ["http://", "https://"])
      (beside : user = [] ∨ ∃ name, user = name ++ Text.ofChar '@' ∧ ∀ p ∈ name, endsHost p = false)
      (written : Host.IsWritten host)
      (ended : next ∈ Text.ofString ":/") :
      IsHosted (Text.ofString scheme ++ user ++ host ++ next :: rest)

namespace Address

/-- What is encoded of a user ends no host. -/
theorem endsHost_encode_inUser (t : Text) : ∀ p ∈ encode inUser t, endsHost p = false := by
  -- there are 256 bytes, and what becomes of each does not depend on the text
  have bytes : ∀ n < 256, ∀ p ∈ (if inUser (UInt8.ofNat n) then
      [.scalar '%', capitalHex (n / 16), capitalHex (n % 16)] else [CodePoint.ofNat n]),
      endsHost p = false := by
    decide +kernel
  intro p mem
  obtain ⟨b, -, own⟩ := List.mem_flatMap.1 mem
  have byte := bytes b.toNat b.toNat_lt p
  rw [UInt8.ofNat_toNat] at byte
  exact byte own

theorem endsHost_userText (t : Text) : ∀ p ∈ userText t, endsHost p = false := by
  simp only [userText, List.mem_append]
  rintro p (own | own)
  · exact endsHost_encode_inUser _ p own
  · split at own
    · simp at own
    · rcases List.mem_append.1 own with colon | own
      · obtain rfl := List.mem_singleton.1 colon
        decide
      · exact endsHost_encode_inUser _ p own

/-- The parts of an authority that is read. -/
theorem parts_of_authority {t user : Text} {host : Host} {port : Option Nat}
    (read : authority t = .ok (user, host, port)) :
    (∀ p ∈ user, endsHost p = false) ∧ ∃ h, Host.parse h = .ok host := by
  rw [authority] at read
  generalize splitUser t = parts at read
  obtain ⟨typed, rest⟩ := parts
  simp only at read
  generalize splitHost false rest = parts at read
  obtain ⟨name, rest⟩ := parts
  simp only [bind, Except.bind] at read
  split at read
  · simp [throw, throwThe, MonadExceptOf.throw] at read
  · cases found : Host.parse name with
    | error fault => simp [found] at read
    | ok host' =>
      cases digits : readPort rest with
      | error fault => simp [found, digits] at read
      | ok port' =>
        simp only [found, digits, pure, Except.pure, Except.ok.injEq, Prod.mk.injEq] at read
        obtain ⟨rfl, rfl, rfl⟩ := read
        refine ⟨?_, name, found⟩
        cases typed with
        | none => simp
        | some typed => exact endsHost_userText typed

/-- An address that is read has the parts of an authority. -/
theorem parts_of_parse {t : Text} {a : Address} (read : parse t = .ok a) :
    (∀ p ∈ a.user, endsHost p = false) ∧ ∃ h, Host.parse h = .ok a.host := by
  have rest {scheme : Scheme} {rest : Text} (read : ofRest scheme rest = .ok a) :
      (∀ p ∈ a.user, endsHost p = false) ∧ ∃ h, Host.parse h = .ok a.host := by
    simp only [ofRest] at read
    cases found : authority ((rest.dropWhile isSlash).takeWhile fun p =>
        !endsAuthority true p) with
    | error fault => simp [found, bind, Except.bind] at read
    | ok parts =>
      obtain ⟨user, host, port⟩ := parts
      simp only [found, bind, Except.bind, pure, Except.pure, Except.ok.injEq] at read
      subst read
      exact parts_of_authority found
  rw [parse] at read
  split at read
  · simp at read
  · split at read
    · simp at read
    · split at read
      · exact rest read
      · split at read
        · exact rest read
        · simp at read

/-- What follows the host in the normal form is a port or the path. -/
theorem text_eq (a : Address) : ∃ next rest, next ∈ Text.ofString ":/" ∧
    a.text = Text.ofString (a.scheme.name ++ "://") ++
      (if a.user.isEmpty then [] else a.user ++ Text.ofChar '@') ++ a.host.text ++
        next :: rest := by
  have scheme : Text.ofString (a.scheme.name ++ "://") =
      Text.ofString a.scheme.name ++ Text.ofString "://" := by
    simp only [Text.ofString, String.toList_append, List.map_append]
  simp only [text, scheme, List.append_assoc]
  cases a.port with
  | none => exact ⟨.scalar '/', _, by decide, rfl⟩
  | some port => exact ⟨.scalar ':', _, by decide, rfl⟩

/-- **The normal form of an address** is that of a web address with a host. -/
theorem isHosted_text {t : Text} {a : Address} (read : parse t = .ok a) : IsHosted a.text := by
  obtain ⟨plain, h, host⟩ := parts_of_parse read
  obtain ⟨next, rest, ended, parts⟩ := a.text_eq
  rw [parts]
  refine .intro ?_ ?_ (Host.isWritten_of_parse host) ended
  · cases a.scheme <;> decide
  · split
    · exact .inl rfl
    · exact .inr ⟨a.user, rfl, plain⟩

end Address

end QueryConsole.Web
