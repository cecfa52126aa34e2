import AssetBundle.Proofs.Http.Decision
import AssetBundle.Proofs.Http.Revalidation

/-!
# AssetBundle.Proofs.Http.RootPage

What answers the root of one table. The alias is decided at the first request that needs it, and
with the table as it was, deciding again gives the same path; so no request changes the path that
the alias stands for (`resolve_after`). That path leads to the index page, or the asset at the root
itself, or the only page, or the asset at the default (`find?_pick`), and whatever was asked before,
a request for the root is answered with this record (`root_answered`).
-/

namespace AssetBundle

/-- The record that answers the root: the default counts only where a table leaves it open. -/
def Table.rootRecord? (t : Table) (default : Text) : Option Record :=
  (t.toList.find? fun r => r.url = ("/index.html" : Text)).or <|
    (t.toList.find? fun r => r.url = ("/" : Text)).or <|
      match t.toList.filter fun r => (".html" : Text) <:+ r.url with
      | [r] => some r
      | _ => t.toList.find? fun r => r.url = default

namespace RootAlias

variable {t : Table} {a : RootAlias}

theorem filter_isPage (t : Table) :
    t.urls.filter isPage =
      (t.toList.filter fun r => (".html" : Text) <:+ r.url).map Record.url := by
  have hpage : isPage ∘ Record.url = fun r => decide ((".html" : Text) <:+ r.url) := by
    funext r
    exact Bool.eq_iff_iff.2 (List.isSuffixOf_iff_suffix.trans decide_eq_true_iff.symm)
  rw [Table.urls, List.filter_map, hpage]

/-- The only page is the first record with its path. -/
theorem find?_page {r : Record}
    (honly : (t.toList.filter fun r => (".html" : Text) <:+ r.url) = [r]) :
    (t.toList.find? fun other => other.url = r.url) = some r := by
  have hpage : ∀ other, other ∈ t.toList ∧ (".html" : Text) <:+ other.url ↔ other = r := by
    intro other
    rw [← List.mem_singleton, ← honly, List.mem_filter, decide_eq_true_eq]
  obtain ⟨hmem, hsuffix⟩ := (hpage r).2 rfl
  cases hfind : t.toList.find? fun other => other.url = r.url with
  | none => exact absurd (List.find?_eq_none.1 hfind r hmem) (by simp)
  | some other =>
    have hurl : other.url = r.url := by simpa using List.find?_some hfind
    exact congrArg some ((hpage other).1 ⟨List.mem_of_find?_eq_some hfind, hurl ▸ hsuffix⟩)

/-- The path that a table offers leads to the record that answers its root, and if it offers none,
the default does. -/
theorem find?_pick (t : Table) (default : Text) :
    (t.toList.find? fun r => r.url = (pick? t).getD default) = t.rootRecord? default := by
  rw [pick?, Table.rootRecord?, t.find?_eq, t.find?_eq, filter_isPage, indexPage]
  cases hindex : t.toList.find? fun r => r.url = ("/index.html" : Text) with
  | some r => exact hindex
  | none =>
    cases hroot : t.toList.find? fun r => r.url = ("/" : Text) with
    | some r => exact hroot
    | none =>
      -- One page answers the root. None at all or several leave it to the default.
      cases hpages : t.toList.filter fun r => (".html" : Text) <:+ r.url with
      | nil => rfl
      | cons r pages =>
        cases pages with
        | nil => exact find?_page hpages
        | cons => rfl

theorem exists_of_pick {url : Text} (h : pick? t = some url) : ∃ r ∈ t.toList, r.url = url := by
  have hfound : ∀ url, (t.find? url).isSome = true → ∃ r ∈ t.toList, r.url = url := by
    intro url hurl
    rw [t.find?_eq, List.find?_isSome] at hurl
    simpa using hurl
  rw [pick?] at h
  split at h
  · next hindex =>
    cases h
    exact hfound _ hindex
  · split at h
    · next hroot =>
      cases h
      exact hfound _ hroot
    · split at h
      · next only hpages =>
        cases h
        have hmem : url ∈ t.urls.filter isPage := hpages ▸ List.mem_singleton_self url
        exact List.mem_map.1 (List.mem_filter.1 hmem).1
      · cases h

theorem resolve_unresolved (default : Text) (t : Table) :
    ((unresolved default).resolve t).1 = (pick? t).getD default := by
  unfold resolve
  cases pick? t <;> rfl

theorem resolve_resolve (a : RootAlias) (t : Table) :
    ((a.resolve t).2.1.resolve t).1 = (a.resolve t).1 := by
  unfold resolve
  cases a with
  | mk value resolved =>
    cases resolved with
    | true => rfl
    | false => cases pick? t <;> rfl

/-- The alias after requests that are answered from one table. -/
def after (a : RootAlias) (t : Table) (requests : List Request) : RootAlias :=
  requests.foldl (fun a request => (Reply.toRequest request t a).rootAlias) a

/-- No request changes the path that the alias stands for. -/
theorem resolve_rootAlias (request : Request) (t : Table) (a : RootAlias) :
    ((Reply.toRequest request t a).rootAlias.resolve t).1 = (a.resolve t).1 := by
  have hanswers := Reply.toRequest_answers request t a
  by_cases h : request.IsReading ∧ request.AsksRoot
  · rw [(hanswers.atRoot h.1 h.2).1, resolve_resolve]
  · rw [(hanswers.elsewhere h).1]

theorem resolve_after (requests : List Request) (t : Table) (a : RootAlias) :
    ((a.after t requests).resolve t).1 = (a.resolve t).1 := by
  induction requests generalizing a with
  | nil => rfl
  | cons request requests ih =>
    -- The alias itself may be decided on the way, so only its path is followed.
    exact (ih _).trans (resolve_rootAlias request t a)

end RootAlias

namespace Reply

open RootAlias (unresolved pick?)

variable {t : Table} {default : Text}

theorem find?_target {request : Request} (hroot : request.AsksRoot) (earlier : List Request) :
    (t.toList.find? fun r => r.url = request.target t ((unresolved default).after t earlier)) =
      t.rootRecord? default := by
  rw [Request.target, if_pos hroot, RootAlias.resolve_after, RootAlias.resolve_unresolved,
    RootAlias.find?_pick]

theorem response_root (t : Table) (default : Text) (earlier : List Request) {request : Request}
    (hreading : request.IsReading) (hroot : request.AsksRoot) :
    (toRequest request t ((unresolved default).after t earlier)).response =
      match t.rootRecord? default with
      | none => .ofError 404
      | some r => forRecord r request := by
  rw [toRequest_of_reading hreading, ← find?_target hroot earlier, ← t.find?_eq]
  rfl

/-- A path that a table offers for the root is one of its own. Whatever requests came before, one
that asks for the root is answered with the record that the table and the default have for it, and
with its payload if it is a GET request and names no versions; without such a record there is
nothing at the root. -/
theorem root_answered (t : Table) (default : Text) (earlier : List Request) :
    let a := (unresolved default).after t earlier
    (∀ url, pick? t = some url → ∃ r ∈ t.toList, r.url = url) ∧
    ∀ request : Request, request.IsReading → request.AsksRoot →
      (toRequest request t a).response =
        (match t.rootRecord? default with
        | none => .ofError 404
        | some r => forRecord r request) ∧
      ∀ r, t.rootRecord? default = some r → request.method = "GET" → ¬ request.IsConditional →
        (toRequest request t a).response =
          ⟨200, Response.composeHeaders r.headers r.size, r.payload⟩ := by
  intro a
  refine ⟨fun url => RootAlias.exists_of_pick, fun request hreading hroot => ?_⟩
  have hresponse := response_root t default earlier hreading hroot
  refine ⟨hresponse, fun r hr hget hconditional => ?_⟩
  have hmethod : request.method ≠ "HEAD" := hget ▸ (by decide)
  rw [hresponse, hr]
  dsimp only
  rw [forRecord, Revalidation.notModified_of_not_conditional hconditional,
    if_neg Bool.false_ne_true, if_neg hmethod]

/-- A table with two pages leaves its root to the default, also after a request for it. -/
theorem root_answered_open :
    let asset (url : Text) : Record :=
      ⟨url, "text/plain", Latin1.bytes url, [("Content-Type", "text/plain")], by rfl⟩
    let t := Table.ofRecords [asset "/a.html", asset "/b.html", asset "/c"]
    let a := (unresolved "/c").after t [⟨"HEAD", "/", []⟩]
    (toRequest ⟨"GET", "?q", []⟩ t a).response =
      ⟨200, Response.composeHeaders [("Content-Type", "text/plain")] 2, Latin1.bytes "/c"⟩ := by
  intro asset t a
  have hrecord : t.rootRecord? "/c" = some (asset "/c") := by rfl
  obtain ⟨_, hanswered⟩ := root_answered t "/c" [⟨"HEAD", "/", []⟩]
  rw [(hanswered ⟨"GET", "?q", []⟩ (.inl rfl) (.inl rfl)).1, hrecord]
  rfl

end Reply
end AssetBundle
