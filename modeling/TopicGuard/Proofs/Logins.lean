import TopicGuard.Proofs.Bcrypt.Written
import TopicGuard.Proofs.LastEntry
import TopicGuard.Proofs.Outcomes

/-!
# Logging in with a new hash

A new hash is read back from the line that gives it to a user, and the password it was made
of is accepted, also where the line is put behind the lines of a password file that already
has some.  Such a line changes nothing for any other user.
-/

namespace TopicGuard

open Text (trimStart)

/-! ## New hashes -/

namespace Bcrypt

variable {salt : Salt} {cost : UInt32} {password text : String}

theorem exists_hash_eq_error_iff :
    (∃ error, hash salt cost password = .error error) ↔
      ¬ (minCost ≤ cost.toNat ∧ cost.toNat ≤ maxCost) := by
  rw [hash]
  split <;> simp [*]

theorem hash_eq_ok_iff :
    hash salt cost password = .ok text ↔ (minCost ≤ cost.toNat ∧ cost.toNat ≤ maxCost) ∧
      Stored.write ⟨cost.toNat, salt, digest cost.toNat salt password⟩ = text := by
  rw [hash]
  split <;> simp [*]

/-- A new hash accepts the password it was made of.  Of the digest this only uses that it is
the same whenever password, cost and salt are. -/
theorem verify_hash (made : hash salt cost password = .ok text) :
    verify password text = true := by
  obtain ⟨⟨least, greatest⟩, rfl⟩ := hash_eq_ok_iff.mp made
  rw [verify, Stored.read?_write least greatest, Option.any_some, Stored.accepts]
  exact beq_self_eq_true _

/-- A new hash can stand on a line. -/
theorem writable_hash (made : hash salt cost password = .ok text) {username : String}
    (no_colon : ':' ∉ username.toList) (one_line : '\n' ∉ username.toList)
    (not_comment : (trimStart username.toList).head? ≠ some '#') :
    Password.Line.Writable username text := by
  obtain ⟨_, rfl⟩ := hash_eq_ok_iff.mp made
  constructor
  · exact no_colon
  · exact one_line
  · exact not_comment
  · intro member
    exact absurd (Stored.isAlphanum_of_mem_write member) (by decide)
  · intro member
    exact absurd (Stored.isAlphanum_of_mem_write member) (by decide)
  · intro last
    exact absurd (Stored.isAlphanum_of_mem_write (List.mem_of_getLast? last)) (by decide)

end Bcrypt

/-! ## One more line -/

namespace Password.File

open Line (Writable written)

variable {name stored ending : String}

theorem lines_written (writable : Writable name stored) (ended : ending = "" ∨ ending = "\n") :
    Text.lines (name ++ ":" ++ stored ++ ending).toList = [written name stored] := by
  obtain ⟨free, unreturned⟩ := writable.written_one_line
  have visible : written name stored ≠ [] := by simp [written]
  have toList_eq : (name ++ ":" ++ stored ++ ending).toList =
      written name stored ++ ending.toList := by
    simp [written]
  rw [toList_eq]
  rcases ended with rfl | rfl
  · rw [String.toList_empty, List.append_nil, Text.lines_of_not_mem free visible]
  · have cut := Text.lines_append_newline free []
    rw [Text.lines_nil, Text.dropReturn, if_neg unreturned] at cut
    exact cut

/-- A line behind a file is added to what the file says. -/
theorem read_append_written (writable : Writable name stored)
    (ended : ending = "" ∨ ending = "\n") {source : String}
    (source_ended : source = "" ∨ source.toList.getLast? = some '\n') :
    read (source ++ (name ++ ":" ++ stored ++ ending)) = (read source).add (.user name stored) := by
  have source_lines : source.toList = [] ∨ source.toList.getLast? = some '\n' := by
    simpa using source_ended
  rw [read, String.toList_append, Text.lines_append source_lines, lines_written writable ended,
    List.map_append, List.foldl_append, List.map_singleton, writable.read_written]
  rfl

end Password.File

/-! ## Stores -/

namespace Store

variable {config : Config} {acl : Option String} {source line : String}
  {username password text : String} {salt : Bcrypt.Salt} {cost : UInt32} {store second : Store}

/-- Two stores treat everyone alike but one user. -/
def AgreeBut (username : String) (first second : Store) : Prop :=
  ∀ other, other ≠ username → second.containsUser other = first.containsUser other ∧
    ∀ verifier secret,
      second.authenticates verifier other secret = first.authenticates verifier other secret

/-- A line alone makes stores of one user, who logs in. -/
structure SoleLogin (line username password stored : String) : Prop where
  made : ∀ config, ∃ store, ofTexts config line none = .ok store ∧ store.stats = ⟨1, 0, 0⟩
  users_eq : ∀ config acl store, ofTexts config line acl = .ok store →
    store.users.entries = [(username, stored)]
  logs_in : ∀ config acl store, ofTexts config line acl = .ok store →
    store.authenticates .bcrypt username password = true

/-- A line behind a password file lets a user log in and changes nothing else. -/
structure AddedLogin (source line username password : String) : Prop where
  made : ∀ config acl store, ofTexts config source acl = .ok store →
    ∃ extended, ofTexts config (source ++ line) acl = .ok extended ∧
      extended.acl = store.acl ∧
      extended.stats.malformedLines = store.stats.malformedLines
  logs_in : ∀ config acl extended, ofTexts config (source ++ line) acl = .ok extended →
    extended.authenticates .bcrypt username password = true
  others_unchanged : ∀ config acl extended otherConfig otherAcl store,
    ofTexts config (source ++ line) acl = .ok extended →
    ofTexts otherConfig source otherAcl = .ok store → AgreeBut username store extended

theorem agreeBut_of_users_eq_insert (users_eq : second.users = store.users.insert username text) :
    AgreeBut username store second := by
  intro other different
  have get?_eq : second.users.get? other = store.users.get? other := by
    rw [users_eq, NameMap.get?_insert, if_neg different]
  constructor
  · rw [containsUser, containsUser, NameMap.contains, NameMap.contains, get?_eq]
  · intro verifier secret
    rw [authenticates, authenticates, get?_eq]

theorem authenticates_of_users_eq_insert {users : NameMap String}
    (users_eq : store.users = users.insert username text)
    (made : Bcrypt.hash salt cost password = .ok text) :
    store.authenticates .bcrypt username password = true := by
  rw [authenticates, users_eq, NameMap.get?_insert, if_pos rfl]
  exact Bcrypt.verify_hash made

/-- One more line that gives a user a password does not keep a store from being made, and
does not change its rules. -/
theorem exists_ofTexts_add
    (read_eq : Password.File.read line = (Password.File.read source).add (.user username text))
    (made : ofTexts config source acl = .ok store) :
    ∃ extended, ofTexts config line acl = .ok extended ∧ extended.acl = store.acl ∧
      extended.stats.malformedLines = store.stats.malformedLines := by
  obtain ⟨file, taken, rfl⟩ := ofTexts_eq_ok_iff.mp made
  have known : ∀ name, (Password.File.read source).users.contains name = true →
      (Password.File.read line).users.contains name = true := by
    intro name
    rw [read_eq, NameMap.contains, NameMap.contains, Password.File.add, NameMap.get?_insert]
    split <;> simp
  refine ⟨ofFiles config (Password.File.read line) file, ?_, ?_, ?_⟩
  · apply ofTexts_eq_ok_iff.mpr
    refine ⟨file, ?_, rfl⟩
    cases taken with
    | none => exact .none
    | some taken => exact .some (Acl.File.read_eq_ok_of_known known taken)
  · cases file <;> rfl
  · rw [read_eq]
    cases file <;> rfl

theorem soleLogin_of_hash (made : Bcrypt.hash salt cost password = .ok text)
    (read_eq : Password.File.read line = Password.File.empty.add (.user username text)) :
    SoleLogin line username password text := by
  constructor
  · intro config
    rw [ofTexts, read_eq]
    exact ⟨_, rfl, rfl⟩
  · intro config acl store store_made
    rw [users_of_ofTexts store_made, read_eq]
    rfl
  · intro config acl store store_made
    have users_eq := users_of_ofTexts store_made
    rw [read_eq] at users_eq
    exact authenticates_of_users_eq_insert users_eq made

theorem addedLogin_of_hash (made : Bcrypt.hash salt cost password = .ok text)
    (read_eq : Password.File.read (source ++ line) =
      (Password.File.read source).add (.user username text)) :
    AddedLogin source line username password := by
  have users_eq : ∀ config acl extended, ofTexts config (source ++ line) acl = .ok extended →
      extended.users = (Password.File.read source).users.insert username text := by
    intro config acl extended extended_made
    rw [users_of_ofTexts extended_made, read_eq]
    rfl
  constructor
  · intro config acl store
    exact exists_ofTexts_add read_eq
  · intro config acl extended extended_made
    exact authenticates_of_users_eq_insert (users_eq config acl extended extended_made) made
  · intro config acl extended otherConfig otherAcl store extended_made store_made
    apply agreeBut_of_users_eq_insert
    rw [users_of_ofTexts store_made]
    exact users_eq config acl extended extended_made

/-- A password is hashed if the cost lies between 4 and 31, and not otherwise.  For every user
whose name can stand on a line, a line with the new hash makes stores of this one user and no
malformed line, and the user logs in with the password.  Behind any password file whose last
line is ended, the line lets the user log in, whatever the file gave the user before, and
changes nothing for the others nor for the rules. -/
theorem new_hash_logs_in (salt : Bcrypt.Salt) (cost : UInt32) (password : String) :
    ((∃ error, Bcrypt.hash salt cost password = .error error) ↔
      ¬ (4 ≤ cost.toNat ∧ cost.toNat ≤ 31)) ∧
    (4 ≤ cost.toNat ∧ cost.toNat ≤ 31 →
      ∃ text, Bcrypt.hash salt cost password = .ok text ∧
        ∀ username ending, ':' ∉ username.toList → '\n' ∉ username.toList →
          (trimStart username.toList).head? ≠ some '#' → ending = "" ∨ ending = "\n" →
          SoleLogin (username ++ ":" ++ text ++ ending) username password text ∧
          ∀ source, source = "" ∨ source.toList.getLast? = some '\n' →
            AddedLogin source (username ++ ":" ++ text ++ ending) username password) := by
  constructor
  · exact Bcrypt.exists_hash_eq_error_iff
  · intro allowed
    obtain ⟨text, made⟩ : ∃ text, Bcrypt.hash salt cost password = .ok text :=
      ⟨_, Bcrypt.hash_eq_ok_iff.mpr ⟨allowed, rfl⟩⟩
    refine ⟨text, made, ?_⟩
    intro username ending no_colon one_line not_comment ended
    have writable := Bcrypt.writable_hash made no_colon one_line not_comment
    constructor
    · have read_eq := Password.File.read_append_written writable ended (.inl rfl)
      rw [String.empty_append] at read_eq
      exact soleLogin_of_hash made read_eq
    · intro source source_ended
      exact addedLogin_of_hash made
        (Password.File.read_append_written writable ended source_ended)

/-- A user who had another password logs in with the empty one, and another user keeps the
password that was stored before. -/
theorem new_hash_logs_in_after_old_password :
    ∃ text extended, Bcrypt.hash (Vector.replicate 16 0) 4 "" = .ok text ∧
      ofTexts .initial ("u:old\nv:kept\n" ++ ("u" ++ ":" ++ text ++ "\n")) none = .ok extended ∧
      extended.authenticates .bcrypt "u" "" = true ∧
      extended.authenticates .plain "v" "kept" = true := by
  obtain ⟨text, made, logs_in⟩ := (new_hash_logs_in (Vector.replicate 16 0) 4 "").2 (by decide)
  have added := (logs_in "u" "\n" (by decide) (by decide) (by decide) (.inr rfl)).2
    "u:old\nv:kept\n" (.inr rfl)
  have store_made : ofTexts .initial "u:old\nv:kept\n" none = .ok _ := rfl
  obtain ⟨extended, extended_made, _, _⟩ := added.made .initial none _ store_made
  have agree :=
    added.others_unchanged .initial none extended .initial none _ extended_made store_made
  refine ⟨text, extended, made, extended_made, ?_, ?_⟩
  · exact added.logs_in .initial none extended extended_made
  · rw [(agree "v" (by decide)).2 .plain "kept"]
    rfl

end Store

end TopicGuard
