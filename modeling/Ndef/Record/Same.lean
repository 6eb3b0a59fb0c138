import Ndef.Layout

/-!
# Comparing records

Two records are the same if all that is stored of them is: the parts of the header, the bytes,
the positions of the fields, and the content.  The icons of smart posters are compared like
records that are not interpreted.
-/

namespace Ndef

/-- Whether two records agree in all but their contents. -/
def Record.sameFields (r s : Record) : Bool :=
  r.tnf == s.tnf && r.wellKnown? == s.wellKnown? && r.position == s.position
    && r.bytes == s.bytes && r.layout.type == s.layout.type && r.layout.id == s.layout.id
    && r.layout.payload == s.layout.payload

namespace SmartPoster

/-- Whether two icons, of which each may be absent, are the same. -/
def sameIcon : Option Frame → Option Frame → Bool
  | none, none => true
  | some f, some g => (Record.uninterpreted f).sameFields (.uninterpreted g)
  | _, _ => false

/-- Whether two smart posters are the same. -/
def same (p q : SmartPoster) : Bool :=
  p.uri == q.uri && p.title == q.title && p.mediaType == q.mediaType && p.size == q.size
    && p.action == q.action && sameIcon p.icon q.icon

end SmartPoster

/-- Whether two contents are the same. -/
def Content.same : Content → Content → Bool
  | generic, generic => true
  | uri a, uri b => a == b
  | text t, text u => t == u
  | smartPoster p, smartPoster q => p.same q
  | _, _ => false

/-- Whether two records are the same. -/
def Record.same (r s : Record) : Bool :=
  r.sameFields s && r.content.same s.content

end Ndef
