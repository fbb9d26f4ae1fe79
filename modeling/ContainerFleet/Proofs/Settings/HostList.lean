import ContainerFleet.Proofs.Fleet.Connecting
import ContainerFleet.Proofs.Settings.Thresholds
import ContainerFleet.Proofs.Text.Padding
import ContainerFleet.Proofs.Text.Pieces
import ContainerFleet.Settings.Basic
import Mathlib.Data.List.Forall2
import Mathlib.Data.List.Nodup

/-!
# Which texts list hosts

A list of hosts is checked by one function and read by another.  Both are compared here
with the same description of such lists: of the pieces between the commas those that are
not blank each spell one host, with any blanks around its name and its address, and no
name comes twice.

Everything is said of the pieces as they stand in the text.  The two functions look at
trimmed pieces, so the first part shows what a trimmed piece tells of the piece itself:
the equals sign is no blank, hence trimming a piece trims what is before the sign and
what is behind it.

Hosts with different names are all that the fleet asks for, so a list that passed the
check is never refused for a name that comes twice, whatever the daemons do.
-/

namespace ContainerFleet
namespace HostList

open Daemon Text

/-- The pieces between the commas of a list that are not blank. -/
def entries (text : String) : List (List Char) :=
  (splitAt ',' text.toList).filter fun piece => !decide (AllBlank piece)

/-- A piece has text that is not blank before its first equals sign and behind it. -/
def NamesHost (piece : List Char) : Prop :=
  ∃ before after, piece = before ++ '=' :: after ∧ '=' ∉ before ∧
    ¬AllBlank before ∧ ¬AllBlank after

/-- What stands before the first equals sign of a piece, without the blanks around it. -/
def nameOf (piece : List Char) : List Char :=
  trim (piece.takeWhile (· ≠ '='))

/-- A piece is the name of a host, an equals sign and its address, with any blanks around
the name and around the address. -/
def Spells (piece : List Char) (host : Host) : Prop :=
  ∃ before after, Padded host.name.toList before ∧ Padded host.uri.toList after ∧
    piece = before ++ '=' :: after

/-- A host that a list can name: name and address are there, have no blanks at their ends
and no comma, and the name has no equals sign. -/
def Listable (host : Host) : Prop :=
  let name := host.name.toList
  let uri := host.uri.toList
  name ≠ [] ∧ uri ≠ [] ∧ Text.trim name = name ∧ Text.trim uri = uri ∧
    ',' ∉ name ∧ '=' ∉ name ∧ ',' ∉ uri

instance (host : Host) : Decidable (Listable host) :=
  inferInstanceAs (Decidable (_ ∧ _ ∧ _ ∧ _ ∧ _ ∧ _ ∧ _))

/-- Pieces with commas between them; no pieces make an empty text. -/
def joined (pieces : List (List Char)) : List Char :=
  List.intercalate [','] pieces

/-! ## One piece -/

section Piece

variable {piece before after : List Char} {host : Host}

theorem isBlank_equals : isBlank '=' = false := by decide

theorem cutAt?_trim (absent : '=' ∉ before) :
    cutAt? '=' (trim (before ++ '=' :: after)) =
      some (before.dropWhile isBlank, after.rdropWhile isBlank) := by
  have stillAbsent : '=' ∉ before.dropWhile isBlank :=
    fun member => absent ((List.dropWhile_sublist _).mem member)
  rw [trim_split before isBlank_equals, cutAt?_of_split stillAbsent]

theorem nameOf_split (absent : '=' ∉ before) : nameOf (before ++ '=' :: after) = trim before := by
  have passed : ∀ char ∈ before, decide (char ≠ '=') = true :=
    fun char member => decide_eq_true fun same => absent (same ▸ member)
  rw [nameOf, List.takeWhile_append_of_pos passed]
  simp

theorem hostOf_trim (absent : '=' ∉ before) : hostOf (trim (before ++ '=' :: after)) =
    ⟨String.ofList (trim before), String.ofList (trim after)⟩ := by
  rw [hostOf, cutAt?_trim absent]
  dsimp only
  rw [trim_dropWhile, trim_rdropWhile]

theorem itemName?_trim_split (absent : '=' ∉ before) :
    itemName? (trim (before ++ '=' :: after)) =
      if (trim before).isEmpty || (trim after).isEmpty then none else some (trim before) := by
  rw [itemName?, cutAt?_trim absent]
  simp only [Option.bind_eq_bind, Option.bind_some, trim_dropWhile, trim_rdropWhile]

theorem itemName?_trim (names : NamesHost piece) :
    itemName? (trim piece) = some (nameOf piece) := by
  rcases names with ⟨before, after, rfl, absent, named, addressed⟩
  rw [nameOf_split absent, itemName?_trim_split absent]
  simp [trim_eq_nil_iff, named, addressed]

theorem itemName?_trim_eq_none (unnamed : ¬NamesHost piece) : itemName? (trim piece) = none := by
  by_cases member : '=' ∈ piece
  · rcases List.eq_append_cons_of_mem member with ⟨before, after, rfl, absent⟩
    have lacking : AllBlank before ∨ AllBlank after := by
      by_contra full
      rw [not_or] at full
      exact unnamed ⟨before, after, rfl, absent, full⟩
    rw [itemName?_trim_split absent]
    simpa [trim_eq_nil_iff, ← or_iff_not_imp_left] using lacking
  · have uncut : cutAt? '=' (trim piece) = none :=
      cutAt?_eq_none_iff.mpr fun inside => member ((padded_trim piece).mem inside)
    rw [itemName?, uncut]
    rfl

/-- The host read from a piece is spelled by it. -/
theorem spells_hostOf (names : NamesHost piece) : Spells piece (hostOf (trim piece)) := by
  rcases names with ⟨before, after, rfl, absent, -, -⟩
  rw [hostOf_trim absent]
  refine ⟨before, after, ?_, ?_, rfl⟩
  · simpa using padded_trim before
  · simpa using padded_trim after

theorem name_hostOf (names : NamesHost piece) :
    (hostOf (trim piece)).name = String.ofList (nameOf piece) := by
  rcases names with ⟨before, after, rfl, absent, -, -⟩
  rw [hostOf_trim absent, nameOf_split absent]

theorem listable_hostOf (names : NamesHost piece) (plain : ',' ∉ piece) :
    Listable (hostOf (trim piece)) := by
  rcases names with ⟨before, after, rfl, absent, named, addressed⟩
  rw [List.mem_append, List.mem_cons] at plain
  have outside : ∀ {char : Char} {text : List Char}, char ∉ text → char ∉ trim text :=
    fun missing inside => missing ((padded_trim _).mem inside)
  rw [hostOf_trim absent]
  simp only [Listable, String.toList_ofList, ne_eq, trim_eq_nil_iff, trim_trim]
  refine ⟨named, addressed, trivial, trivial, ?_, outside absent, ?_⟩
  · exact outside fun inBefore => plain (.inl inBefore)
  · exact outside fun inAfter => plain (.inr (.inr inAfter))

/-- A piece that spells a host has a name and an address, which are those of the host. -/
theorem Spells.read (spells : Spells piece host) (listable : Listable host) :
    NamesHost piece ∧ hostOf (trim piece) = host := by
  rcases spells with ⟨before, after, name, uri, rfl⟩
  rcases listable with ⟨someName, someUri, trimmedName, trimmedUri, -, noSign, -⟩
  have absent : '=' ∉ before := fun member => noSign (name.mem_core member isBlank_equals)
  have nameLeft : trim before = host.name.toList := name.trim_eq.trans trimmedName
  have uriLeft : trim after = host.uri.toList := uri.trim_eq.trans trimmedUri
  refine ⟨⟨before, after, rfl, absent, ?_, ?_⟩, ?_⟩
  · rw [← trim_eq_nil_iff, nameLeft]
    exact someName
  · rw [← trim_eq_nil_iff, uriLeft]
    exact someUri
  · rw [hostOf_trim absent, nameLeft, uriLeft, String.ofList_toList, String.ofList_toList]

/-- There is no comma in a piece that spells a host. -/
theorem Spells.plain (spells : Spells piece host) (listable : Listable host) : ',' ∉ piece := by
  rcases spells with ⟨before, after, name, uri, rfl⟩
  rcases listable with ⟨-, -, -, -, plainName, -, plainUri⟩
  have visible : isBlank ',' = false := by decide
  intro member
  rcases List.mem_append.mp member with inBefore | inRest
  · exact plainName (name.mem_core inBefore visible)
  · rcases List.mem_cons.mp inRest with same | inAfter
    · exact absurd same (by decide)
    · exact plainUri (uri.mem_core inAfter visible)

end Piece

/-! ## The whole list -/

theorem items_eq (text : String) : items text.toList = (entries text).map trim := by
  rw [items, entries, List.filter_map]
  congr 1
  apply List.filter_congr
  intro piece _
  have same : (trim piece).isEmpty = decide (AllBlank piece) := by
    rw [Bool.eq_iff_iff, List.isEmpty_iff, decide_eq_true_eq, trim_eq_nil_iff]
  rw [Function.comp_apply, same]

theorem checkItems_eq_ok_iff (seen pieces : List (List Char)) :
    checkItems seen (pieces.map trim) = .ok () ↔
      (∀ piece ∈ pieces, NamesHost piece) ∧ (pieces.map nameOf).Nodup ∧
        ∀ piece ∈ pieces, nameOf piece ∉ seen := by
  induction pieces generalizing seen with
  | nil => simp [checkItems]
  | cons piece later inductionHypothesis =>
    rw [List.map_cons, checkItems]
    by_cases names : NamesHost piece
    · rw [itemName?_trim names]
      dsimp only
      by_cases repeated : nameOf piece ∈ seen
      · rw [if_pos (by simpa using repeated)]
        simp [repeated]
      · rw [if_neg (by simpa using repeated), inductionHypothesis]
        constructor
        · rintro ⟨rest, distinct, others⟩
          refine ⟨List.forall_mem_cons.mpr ⟨names, rest⟩, List.nodup_cons.mpr ⟨?_, distinct⟩,
            List.forall_mem_cons.mpr ⟨repeated, fun other member => ?_⟩⟩
          · intro again
            rcases List.mem_map.mp again with ⟨other, member, same⟩
            exact others other member (same ▸ List.mem_cons_self)
          · exact fun inSeen => others other member (List.mem_cons_of_mem _ inSeen)
        · rintro ⟨all, distinct, unseen⟩
          rcases List.nodup_cons.mp distinct with ⟨different, distinct⟩
          refine ⟨(List.forall_mem_cons.mp all).2, distinct, fun other member inSeen => ?_⟩
          rcases List.mem_cons.mp inSeen with same | before
          · exact different (List.mem_map.mpr ⟨other, member, same⟩)
          · exact (List.forall_mem_cons.mp unseen).2 other member before
    · rw [itemName?_trim_eq_none names]
      simp [names]

/-- A text passes the check just if each piece that is not blank has a name and an
address and no name comes twice. -/
theorem check_eq_ok_iff (text : String) : check text = .ok () ↔
    (∀ piece ∈ entries text, NamesHost piece) ∧ ((entries text).map nameOf).Nodup := by
  rw [check, items_eq, checkItems_eq_ok_iff]
  simp

theorem hosts_eq (text : String) :
    hosts text = (entries text).map fun piece => hostOf (trim piece) := by
  rw [hosts, items_eq, List.map_map]
  rfl

theorem plain_of_mem_entries {text : String} {piece : List Char} (member : piece ∈ entries text) :
    ',' ∉ piece :=
  not_mem_of_mem_splitAt (List.mem_of_mem_filter member)

section Checked

variable {text : String} (checked : check text = .ok ())
include checked

/-- The hosts of a list are those that its pieces spell. -/
theorem spells_hosts : List.Forall₂ Spells (entries text) (hosts text) := by
  rw [hosts_eq, List.forall₂_map_right_iff, List.forall₂_same]
  intro piece member
  exact spells_hostOf (((check_eq_ok_iff text).mp checked).1 piece member)

theorem listable_hosts : ∀ host ∈ hosts text, Listable host := by
  intro host member
  rw [hosts_eq] at member
  rcases List.mem_map.mp member with ⟨piece, among, rfl⟩
  exact listable_hostOf (((check_eq_ok_iff text).mp checked).1 piece among)
    (plain_of_mem_entries among)

theorem distinct_hosts : ((hosts text).map Host.name).Nodup := by
  rcases (check_eq_ok_iff text).mp checked with ⟨named, distinct⟩
  have names : (hosts text).map Host.name = ((entries text).map nameOf).map String.ofList := by
    rw [hosts_eq, List.map_map, List.map_map]
    apply List.map_congr_left
    intro piece member
    exact name_hostOf (named piece member)
  rw [names]
  exact List.Nodup.map (fun _ _ => String.ofList_inj.mp) distinct

end Checked

/-- A text whose pieces spell hosts with different names passes the check, and these
hosts are read from it. -/
theorem read_of_spells {text : String} {hosts : List Host}
    (spelled : List.Forall₂ Spells (entries text) hosts) (listable : ∀ host ∈ hosts, Listable host)
    (distinct : (hosts.map Host.name).Nodup) :
    check text = .ok () ∧ HostList.hosts text = hosts := by
  have read : (∀ piece ∈ entries text, NamesHost piece) ∧ HostList.hosts text = hosts := by
    rw [hosts_eq]
    generalize entries text = pieces at spelled
    induction spelled with
    | nil => simp
    | cons spells _ inductionHypothesis =>
      rcases List.forall_mem_cons.mp listable with ⟨here, others⟩
      rcases inductionHypothesis others (List.nodup_cons.mp distinct).2 with ⟨named, rest⟩
      rcases spells.read here with ⟨names, found⟩
      exact ⟨List.forall_mem_cons.mpr ⟨names, named⟩, by rw [List.map_cons, found, rest]⟩
  refine ⟨(check_eq_ok_iff text).mpr ⟨read.1, ?_⟩, read.2⟩
  have names : ((entries text).map nameOf).map String.ofList = hosts.map Host.name := by
    rw [← read.2, hosts_eq, List.map_map, List.map_map]
    apply List.map_congr_left
    intro piece member
    exact (name_hostOf (read.1 piece member)).symm
  rw [← names] at distinct
  exact List.Nodup.of_map _ distinct

theorem plain_of_spelled {pieces : List (List Char)} {hosts : List Host}
    (spelled : List.Forall₂ Spells pieces hosts) (listable : ∀ host ∈ hosts, Listable host) :
    ∀ piece ∈ pieces, ',' ∉ piece := by
  induction spelled with
  | nil => exact List.forall_mem_nil _
  | cons spells _ inductionHypothesis =>
    rcases List.forall_mem_cons.mp listable with ⟨here, others⟩
    exact List.forall_mem_cons.mpr ⟨spells.plain here, inductionHypothesis others⟩

/-- Pieces that are blank or spell hosts are found again between commas. -/
theorem entries_joined {pieces : List (List Char)} {hosts : List Host}
    (spelled : List.Forall₂ Spells (pieces.filter fun piece => !decide (AllBlank piece)) hosts)
    (listable : ∀ host ∈ hosts, Listable host) :
    entries (String.ofList (joined pieces)) =
      pieces.filter fun piece => !decide (AllBlank piece) := by
  have plain : ∀ piece ∈ pieces, ',' ∉ piece := by
    intro piece member inside
    by_cases blank : AllBlank piece
    · exact absurd (blank ',' inside) (by decide)
    · have kept : piece ∈ pieces.filter fun piece => !decide (AllBlank piece) :=
        List.mem_filter.mpr ⟨member, by simp [blank]⟩
      exact plain_of_spelled spelled listable piece kept inside
  rw [entries, String.toList_ofList, joined]
  by_cases some_piece : pieces = []
  · rw [some_piece]
    rfl
  · rw [splitAt_intercalate some_piece plain]

end HostList

/-! ## The setting -/

namespace HostSettings

open Daemon Decode HostList

/-- The settings that are made with a list of hosts, or the flaw of the list at its place. -/
theorem load_list (text : String) : load [] [("hosts", .text text)] =
    match check text with
    | .ok () => .ok ⟨text, 60, true⟩
    | .error flaw => .failed [⟨[.key "hosts"], .rejected flaw.message⟩] := by
  have own : Settings.isNameOf "hosts" "hosts" = true := by decide
  have notTimeout : Settings.isNameOf "hosts" "timeout" = false := by decide
  have notProgram : Settings.isNameOf "hosts" "use_ssh_client" = false := by decide
  have members : Settings.fieldMembers [("hosts", .text text)] fields =
      [("hosts", .text text)] := by
    simp [Settings.fieldMembers, Settings.keyword?, fields, own, notTimeout, notProgram]
  have names : Settings.checkNames [("hosts", .text text)] fields = .ok () := by
    simp [Settings.checkNames, fields, own]
  have decoded : decode ([("hosts", .text text)] ++ Variables.toMembers [] "docker_" fields) =
      HostSettings.mk <$> (hostList (.text text)).within (.key "hosts")
        <*> .ok 60 <*> .ok true := rfl
  have listed : hostList (.text text) =
      match check text with
      | .ok () => .ok text
      | .error flaw => .problem (.rejected flaw.message) := rfl
  rw [load, members, names, decoded, listed]
  cases check text <;> rfl

/-- Wherever settings come from, their list of hosts has passed the check. -/
theorem check_of_load {environment : Variables} {keywords : Members} {settings : HostSettings}
    (loaded : load environment keywords = .ok settings) : check settings.hosts = .ok () := by
  rw [load] at loaded
  rcases Checked.ok_of_seq loaded with ⟨keep, _, kept, -, rfl⟩
  rcases Checked.ok_of_map kept with ⟨found, decoded, rfl⟩
  rw [decode] at decoded
  rcases Checked.ok_of_seq decoded with ⟨withTimeout, _, withTimeout_ok, -, rfl⟩
  rcases Checked.ok_of_seq withTimeout_ok with ⟨withHosts, _, withHosts_ok, -, rfl⟩
  rcases Checked.ok_of_map withHosts_ok with ⟨hosts, listed, rfl⟩
  rcases withDefault_eq_ok_iff.mp listed with ⟨document, -, accepted⟩ | ⟨-, rfl⟩
  · rw [hostList] at accepted
    cases document with
    | text list =>
      change (match check list with
        | .ok () => Checked.ok list
        | .error flaw => .problem (.rejected flaw.message)) = .ok hosts at accepted
      split at accepted
      · cases accepted
        assumption
      · cases accepted
    | _ => cases accepted
  · have standard : check "local=unix:///var/run/docker.sock" = .ok () := by decide
    exact standard

/-- A text is taken as the list of hosts just if each piece that is not blank has a name
and an address and no name comes twice.  What is read from a text that was taken, wherever
it came from, has one host for each of these pieces, in order and as hosts can be listed,
and connecting them is never refused for a name that comes twice.  And hosts that can be
listed are read back from every list that spells them, with whatever blanks and blank
pieces. -/
theorem hosts_of_setting (text : String) :
    ((∃ settings, load [] [("hosts", .text text)] = .ok settings) ↔
      (∀ piece ∈ entries text, NamesHost piece) ∧ ((entries text).map nameOf).Nodup) ∧
    (∀ environment keywords settings, load environment keywords = .ok settings →
      settings.hosts = text → List.Forall₂ Spells (entries text) settings.list ∧
      (∀ host ∈ settings.list, Listable host) ∧ (settings.list.map Host.name).Nodup ∧
      ∀ {σ : Type} (peers : Peers σ) (connect : Host → Action σ Unit) (before after : Exchange σ)
        (name uri : String), Connect.connectFrom peers connect .empty settings.list before ≠
          .error (.hostUnreachable name uri .duplicateName) after) ∧
    ∀ (hosts : List Host) (pieces : List (List Char)), (∀ host ∈ hosts, Listable host) →
      (hosts.map Host.name).Nodup →
      List.Forall₂ Spells (pieces.filter fun piece => !decide (Text.AllBlank piece)) hosts →
      text = String.ofList (joined pieces) →
      ∃ settings, load [] [("hosts", .text text)] = .ok settings ∧ settings.list = hosts := by
  have taken : ∀ settings, load [] [("hosts", .text text)] = .ok settings ↔
      check text = .ok () ∧ settings = ⟨text, 60, true⟩ := by
    intro settings
    rw [load_list]
    cases check text <;> simp [eq_comm]
  refine ⟨?_, ?_, ?_⟩
  · rw [← check_eq_ok_iff]
    constructor
    · rintro ⟨settings, loaded⟩
      exact ((taken settings).mp loaded).1
    · intro checked
      exact ⟨_, (taken _).mpr ⟨checked, rfl⟩⟩
  · rintro environment keywords settings loaded rfl
    have checked := check_of_load loaded
    have distinct : ((Fleet.empty.hosts ++ settings.list).map Host.name).Nodup :=
      distinct_hosts checked
    refine ⟨spells_hosts checked, listable_hosts checked, distinct, ?_⟩
    intro σ peers connect before after name uri refused
    rcases Connect.connectFrom_cases peers connect distinct before with
      ⟨connected, last, ran, -⟩ | ⟨host, -, error, last, failed⟩
    · cases ran.symm.trans refused
    · cases failed.symm.trans refused
  · rintro hosts pieces listable distinct spelled rfl
    have found := entries_joined spelled listable
    rcases read_of_spells (found ▸ spelled) listable distinct with ⟨checked, read⟩
    exact ⟨_, (taken _).mpr ⟨checked, rfl⟩, read⟩

/-- Blanks around a name and an address, a blank piece, and an equals sign in an address. -/
theorem hosts_of_spaced_setting : ∃ settings,
    load [] [("hosts", .text " local = unix:///a ,\t,edge=ssh://e?x=1")] = .ok settings ∧
    settings.list = [⟨"local", "unix:///a"⟩, ⟨"edge", "ssh://e?x=1"⟩] := by
  have first : Spells " local = unix:///a ".toList ⟨"local", "unix:///a"⟩ :=
    ⟨" local ".toList, " unix:///a ".toList, ⟨[' '], [' '], by decide, by decide, rfl⟩,
      ⟨[' '], [' '], by decide, by decide, rfl⟩, rfl⟩
  have second : Spells "edge=ssh://e?x=1".toList ⟨"edge", "ssh://e?x=1"⟩ :=
    ⟨"edge".toList, "ssh://e?x=1".toList, ⟨[], [], by decide, by decide, rfl⟩,
      ⟨[], [], by decide, by decide, rfl⟩, rfl⟩
  exact (hosts_of_setting _).2.2 _
    [" local = unix:///a ".toList, "\t".toList, "edge=ssh://e?x=1".toList] (by decide) (by decide)
    (.cons first (.cons second .nil)) (by decide)

end HostSettings
end ContainerFleet
