import Provision.Model.Catalogue
import Provision.Proofs.Json.Faithful
import Provision.Proofs.Model.Described
import Provision.Service.Message
import Provision.Settings

namespace Provision

open Json

variable {α : Type}

theorem PageFormat.isFaithful (format : PageFormat α) (distinct : format.fields.keys.Nodup)
    (item : format.item.IsFaithful) : format.codec.IsFaithful := by
  have faithful : format.record.fields.AreFaithful := by
    apply Fields.AreFaithful.cons (Field.isFaithful_items item format.key)
    simp [PageInfo.record]
  apply Codec.isFaithful_of_members distinct faithful (fun _ => rfl)
  intro members page texts known gets
  apply (format.read_object_iff distinct).mpr
  refine ⟨texts, ?_, _, format.record.build_parts page, gets⟩
  exact fun member present unknown => absurd (known member present) unknown

private theorem isFaithful_of_decide {record : Record α}
    (distinct : decide record.fields.keys.Nodup = true) (faithful : record.fields.AreFaithful) :
    record.codec.IsFaithful :=
  record.isFaithful (of_decide_eq_true distinct) faithful

theorem isFaithful_of_mem : ∀ entry ∈ catalogue, entry.record.codec.IsFaithful := by
  simp only [catalogue, Kind.all, Model.record, List.map_cons, List.map_nil, List.cons_append,
    List.nil_append, List.forall_mem_cons]
  -- Down the fields of each record, and of the records in them, to the values by themselves.
  repeat' first
    | apply And.intro
    | apply Fields.AreFaithful.cons
    | apply Field.isFaithful_required
    | apply Field.isFaithful_optional
    | apply Codec.isFaithful_text
    | apply Field.isFaithful_items
    | apply Field.isFaithful_someItems
    | apply Field.isFaithful_defaulted
    | apply Fields.areFaithful_nil
    | apply isFaithful_of_decide
    | apply Codec.isFaithful_id
    | apply Codec.isFaithful_bool
    | apply Codec.isFaithful_uint8
    | apply Codec.isFaithful_uint16
    | apply Codec.isFaithful_uint32
    | apply Codec.isFaithful_uint64
    | apply Codec.isFaithful_timestamp
    | apply Codec.IsFaithful.list
    | rfl
  · exact List.forall_mem_nil _

theorem Model.isFaithful (kind : Kind) : (Model.record kind).codec.IsFaithful :=
  isFaithful_of_mem ⟨Model.record kind⟩
    (List.mem_append_left _ (List.mem_map.mpr ⟨kind, Kind.mem_all kind, rfl⟩))

def Json.Codec.rewrite (codec : Codec α) (bytes : List UInt8) : Except Refusal (List UInt8) :=
  (codec.decode bytes).map fun value => Text.utf8 (codec.write value).print

structure RoundTrips (codec : Codec α) : Prop where
  written (value : α) : codec.decode (Text.utf8 (codec.write value).print) = .ok value
  /-- The body of a request has its members sorted. -/
  posted (request : Service.Request) (value : α) :
    (request.withJson (codec.write value)).body.map
      (fun body => codec.decode (Text.utf8 body.print)) = some (.ok value)
  /-- A text that was written once is not changed by reading and writing it. -/
  settled {bytes text : List UInt8} (once : codec.rewrite bytes = .ok text) :
    codec.rewrite text = .ok text

theorem Json.Codec.IsFaithful.roundTrips {codec : Codec α} (faithful : codec.IsFaithful) :
    RoundTrips codec := by
  have written (tidy : Bool) (value : α) :
      codec.decode (Text.utf8 ((codec.write value).arranged tidy).print) = .ok value := by
    rw [codec.decode_print (faithful.exact tidy value), faithful.reads]
  refine ⟨written false, fun request value => congrArg some (written true value), ?_⟩
  intro bytes text once
  cases done : codec.decode bytes with
  | error refusal =>
    rw [rewrite, done] at once
    cases once
  | ok value =>
    rw [rewrite, done] at once
    cases once
    have again : codec.decode (Text.utf8 (codec.write value).print) = .ok value :=
      written false value
    rw [rewrite, again]
    rfl

structure ModelsRoundTrip : Prop where
  records : ∀ entry ∈ catalogue, RoundTrips entry.record.codec
  models (model : Model) : Model.decode model.kind (Text.utf8 model.toJson.print) = .ok model
  networkDomains : RoundTrips NetworkDomain.pages.codec
  vlans : RoundTrips Vlan.pages.codec
  servers : RoundTrips Server.pages.codec
  settings : RoundTrips Settings.record.codec

/-- Values of all types come back. -/
theorem modelsRoundTrip : ModelsRoundTrip where
  records entry listed := (isFaithful_of_mem entry listed).roundTrips
  models model := by
    have back {kind : Kind} (value : Model.Of kind) :
        Model.decode kind (Text.utf8 ((Model.record kind).codec.write value).print) =
          .ok (Model.wrap kind value) := by
      rw [Model.decode, (Model.isFaithful kind).roundTrips.written]
      rfl
    cases model <;> exact back _
  networkDomains :=
    (NetworkDomain.pages.isFaithful (by decide) (Model.isFaithful .networkDomain)).roundTrips
  vlans := (Vlan.pages.isFaithful (by decide) (Model.isFaithful .vlan)).roundTrips
  servers := (Server.pages.isFaithful (by decide) (Model.isFaithful .server)).roundTrips
  settings := (Settings.record.isFaithful (by decide) (by simp [Settings.record])).roundTrips

end Provision
