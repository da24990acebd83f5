import CorvidNano.Library.Text

/-!
# The host of a URL

The host that a client dials for a URL with an authority: the authority ends at the first `/`,
`?` or `#`, userinfo ends at the last `@`, and a port follows the host. A host in brackets is an
address literal, which may contain colons.
-/

namespace CorvidNano.Url

open Text

/-- The text after the scheme of a URL with an authority. -/
def afterScheme (url : List Char) : Option (List Char) :=
  "//".toList.isPrefixOf? ((url.dropWhile (· != ':')).drop 1)

/-- The character does not end an authority. -/
def inAuthority (c : Char) : Bool :=
  c != '/' && c != '?' && c != '#'

/-- The authority at the start of the text after the scheme. -/
def authority (rest : List Char) : List Char :=
  rest.takeWhile inAuthority

/-- The text begins with a closed address literal. -/
def HasLiteral (hostPort : List Char) : Prop :=
  hostPort.head? = some '[' ∧ ']' ∈ hostPort

/-- `HasLiteral` is decided by looking at the text. -/
instance (hostPort : List Char) : Decidable (HasLiteral hostPort) :=
  inferInstanceAs (Decidable (_ ∧ _))

/-- The host without its port. -/
def dropPort (hostPort : List Char) : List Char :=
  if HasLiteral hostPort then before ']' hostPort ++ [']'] else before ':' hostPort

/-- The host of an authority. -/
def hostOf (authority : List Char) : List Char :=
  dropPort (afterLast '@' authority)

/-- The host that a client dials for a URL. -/
def host (url : List Char) : Option (List Char) :=
  (afterScheme url).map fun rest => hostOf (authority rest)

/-- The name is the domain or one of its subdomains, whatever the case of their letters. -/
def Covers (domain name : List Char) : Prop :=
  lower name = lower domain ∨ '.' :: lower domain <:+ lower name

/-- `Covers` is decided by comparing texts. -/
instance (domain name : List Char) : Decidable (Covers domain name) :=
  inferInstanceAs (Decidable (_ ∨ _))

/-! ## Hosts are parts of their authority -/

/-- The host with its port removed begins the text that has the port. -/
theorem drop_port_initial (hostPort : List Char) : dropPort hostPort <+: hostPort := by
  unfold dropPort
  split
  · rename_i hliteral
    exact before_concat_initial hliteral.2
  · exact before_initial ':' hostPort

/-- Every character of a host stands in the authority. -/
theorem mem_of_mem_host_of {authority : List Char} {c : Char} (h : c ∈ hostOf authority) :
    c ∈ afterLast '@' authority :=
  (drop_port_initial _).subset h

/-- Without userinfo the host is the authority without its port. -/
theorem host_of_eq_drop_port {authority : List Char} (huser : '@' ∉ authority) :
    hostOf authority = dropPort authority := by
  unfold hostOf
  rw [after_last_eq_self huser]

/-- A character that no letter changes into is in a name that the domain covers. -/
theorem Covers.mem {domain name : List Char} {c : Char} (h : Covers domain name)
    (hlower : c.isLower = false) (hc : c.toLower = c) (hmem : c ∈ domain) : c ∈ name := by
  rw [← mem_lower_iff hlower hc] at hmem ⊢
  rcases h with heq | hsuffix
  · rwa [heq]
  · exact hsuffix.mem (List.mem_cons_of_mem _ hmem)

/-- A name is under the domains that the domain above it is under. -/
theorem Covers.trans_suffix {domain name parent : List Char} (h : Covers domain name)
    (hparent : '.' :: parent <:+ domain) : Covers parent name := by
  have hlower : '.' :: lower parent <:+ lower domain :=
    List.IsSuffix.map Char.toLower hparent
  rcases h with heq | hsuffix
  · exact .inr (heq ▸ hlower)
  · exact .inr (hlower.trans ((List.suffix_cons _ _).trans hsuffix))

end CorvidNano.Url
