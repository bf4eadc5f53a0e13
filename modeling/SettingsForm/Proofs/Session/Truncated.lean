import SettingsForm.Proofs.Markup.Truncated
import SettingsForm.Proofs.Session.Sound

/-!
# Replies that were cut off

A reply of the server that was cut off before the bracket that closes its root element is never
taken for a whole one. As a schema, status or values document it makes a load fail, and there is no
form; as the answer to an update it makes the save fail, and no status is told (`cut_rejected`).
-/

namespace SettingsForm

open Markup

/-- Some text is no document. -/
def Unreadable (text : String) : Prop := ∃ fault, parse text = .error fault

variable {text : String}

theorem Catalog.ofDocument_of_unreadable (htext : Unreadable text) {c : Catalog} :
    ofDocument text ≠ .ok c := by
  obtain ⟨fault, hfault⟩ := htext
  rw [ofDocument, hfault]
  nofun

theorem ServerStatus.ofDocument_of_unreadable (htext : Unreadable text) {status : ServerStatus} :
    ofDocument text ≠ .ok status := by
  obtain ⟨fault, hfault⟩ := htext
  rw [ofDocument, hfault]
  nofun

theorem Snapshot.ofDocument_of_unreadable (htext : Unreadable text) {values : Snapshot} :
    ofDocument text ≠ .ok values := by
  obtain ⟨fault, hfault⟩ := htext
  rw [ofDocument, hfault]
  nofun

namespace Session

variable {s : Session} {service : Service} {now : Instant}

theorem receive_of_unreadable {α : Type} {request : Request} {kind : DocumentKind}
    {read : String → Except DocumentFault α} {a : α} (hread : ∀ a, read text ≠ .ok a)
    (hanswer : service request = .ok text) : receive service request kind read ≠ .ok a := by
  intro hreceive
  obtain ⟨answer, hsame, ha⟩ := receive_eq_ok hreceive
  rw [hanswer] at hsame
  obtain rfl := Except.ok.inj hsame
  exact hread a ha

/-- A load that is given something unreadable fails and leaves no form. -/
theorem load_of_unreadable (htext : Unreadable text) {request : Request}
    (hrequest : request ∈ [Request.schema, .status, .values])
    (hanswer : service request = .ok text) :
    (∃ error, (s.load service now).result = .error error) ∧
      (s.load service now).session.form = none := by
  have hstep := s.load_step service now
  revert hstep
  generalize s.load service now = x
  intro hstep
  cases hstep with
  | schemaFailed | statusFailed | valuesFailed => exact ⟨⟨_, rfl⟩, rfl⟩
  | loaded hschema hstatus hvalues =>
    simp only [List.mem_cons, List.not_mem_nil, or_false] at hrequest
    rcases hrequest with rfl | rfl | rfl
    · exact absurd hschema (receive_of_unreadable
        (fun _ => Catalog.ofDocument_of_unreadable htext) hanswer)
    · exact absurd hstatus (receive_of_unreadable
        (fun _ => ServerStatus.ofDocument_of_unreadable htext) hanswer)
    · exact absurd hvalues (receive_of_unreadable
        (fun _ => Snapshot.ofDocument_of_unreadable htext) hanswer)
  | refused hload => cases hload
  | edited hedit => cases hedit

/-- A save that is answered with something unreadable fails, and no status is told. -/
theorem save_of_unreadable (htext : Unreadable text) {f : Form} (hf : s.Loaded f)
    (hwritable : f.isWritable = true)
    (hanswer : service (.update f.updateRequest.encode) = .ok text) :
    (s.save service).result = .error (.saveRejected none) := by
  obtain ⟨fault, hfault⟩ := htext
  have hstatus : replyStatus? text = none := by rw [replyStatus?, hfault]
  have hform : s.editableForm .save = .ok f := editableForm_eq_ok.mpr ⟨hf, hwritable⟩
  rw [save, hform]
  simp only [hanswer, updateResult, hstatus]
  rfl

/-- Whatever document is cut off before the bracket that closes its root, what is left is rejected:
it is no document, a load that gets it for any of its three documents fails without a form, and a
save that is answered with it is rejected without a status. That bracket is where the root is
complete. -/
theorem cut_rejected (document : String) (root : Element) (hroot : parse document = .ok root) :
    ∃ before after, beforeRootEnd? document = some before ∧
      document.toList = before ++ '>' :: after ∧
      parse (.ofList (before ++ ['>'])) = .ok root ∧
      ∀ cut : String, cut.toList <+: before →
        (∃ fault, parse cut = .error fault) ∧
        (∀ (s : Session) (service : Service) (now : Instant),
          ∀ request ∈ [Request.schema, .status, .values], service request = .ok cut →
            (∃ error, (s.load service now).result = .error error) ∧
              (s.load service now).session.form = none) ∧
        ∀ (s : Session) (service : Service) (f : Form), s.Loaded f → f.isWritable = true →
          service (.update f.updateRequest.encode) = .ok cut →
            (s.save service).result = .error (.saveRejected none) := by
  obtain ⟨before, after, hfound, hsplit, hcomplete, hrejected⟩ := rejected_of_cut hroot
  refine ⟨before, after, hfound, hsplit, hcomplete, fun cut hcut => ?_⟩
  have hunreadable : Unreadable cut := hrejected cut hcut
  refine ⟨hunreadable, fun s service now request hrequest hanswer => ?_,
    fun s service f hf hwritable hanswer => ?_⟩
  · exact load_of_unreadable hunreadable hrequest hanswer
  · exact save_of_unreadable hunreadable hf hwritable hanswer

/-- Only the last bracket of the root is missing; tags in a comment and a bracket in a value do not
count. -/
theorem cut_rejected_last_bracket :
    let document := "<?a b?><!-- </r> --><r k='>'><e/>x</r> <f/>"
    let cut := "<?a b?><!-- </r> --><r k='>'><e/>x</r"
    (parse document).isOk = true ∧ (∃ fault, parse cut = .error fault) ∧
      ((start .inMemory .other).load (fun _ => .ok cut) default).session.form = none := by
  intro document cut
  have hok : (parse document).isOk = true := by decide +kernel
  obtain ⟨root, hroot⟩ : ∃ root, parse document = .ok root := by
    cases hparse : parse document with
    | ok root => exact ⟨root, rfl⟩
    | error fault =>
      rw [hparse] at hok
      cases hok
  have hend : beforeRootEnd? document = some cut.toList := by decide +kernel
  obtain ⟨before, after, hfound, -, -, hcut⟩ := cut_rejected document root hroot
  obtain rfl : cut.toList = before := Option.some.inj (hend.symm.trans hfound)
  obtain ⟨hfault, hload, -⟩ := hcut cut (List.prefix_refl _)
  exact ⟨hok, hfault, (hload _ _ default .schema List.mem_cons_self rfl).2⟩

end Session

end SettingsForm
