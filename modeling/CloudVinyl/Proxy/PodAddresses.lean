import CloudVinyl.Lib.Authority
import CloudVinyl.Proxy.Invalidation

set_option relaxedAutoImplicit false
set_option autoImplicit false

/-!
# The addresses of pods in URLs

`withPort` puts a port behind the address of a pod unless it has a colon, and `callPod` writes the
result into a URL as it is. An address of IPv4 becomes an authority with a port. An address of IPv6
has colons: it gets no port and no brackets, and the authority cannot be read.

A request for such a URL cannot be built. `net/http` is not modelled here; what is relied on is that
it builds a request for the address of a pod just when the authority can be read.

## Main definitions

* `Proxy.ReadsURLs` — requests are built just for the URLs whose authority can be read.
* `Proxy.urlError` — the error of `url.Parse` for such a URL.

## Main results

* `Proxy.ofURL_of_isIPv4`, `Proxy.ofURL_of_isIPv6` — what is read of an address in a URL.
* `Proxy.built_iff_isIPv4` — a request to a pod can be built just when its address is one of IPv4.
-/

namespace CloudVinyl.Proxy

open Authority

/-! ## What is read of an address -/

section Addresses

variable {ip port path : Text}

/-- The URL as a scheme, an authority and a path. -/
lemma podURL_eq (pod path : Text) : podURL pod path = "http://" ++ (pod ++ path) := by
  unfold podURL
  exact List.append_assoc _ _ _

/-- A path ends the authority in front of it. -/
lemma head?_all_of_slash (h : path.head? = some '/') : path.head?.all endsAuthority = true := by
  rw [h]
  rfl

/-- An address of IPv4 has no colon. -/
lemma colon_notMem_of_isIPv4 (h : isIPv4 ip = true) : ':' ∉ ip :=
  fun hc => (mem_isIPv4 h hc).elim (by decide) (by decide)

/-- **An address of IPv4** is read with the port behind it. -/
theorem ofURL_of_isIPv4 (h : isIPv4 ip = true) (hport : port.all Char.isDigit = true)
    (hpath : path.head? = some '/') :
    ofURL ("http://" ++ (ip ++ ':' :: port ++ path)) = some (ip, some port) := by
  have hname : isRegName ip = true := by
    refine isEncoded_of_forall (fun c hc => ?_) (by decide)
    rcases mem_isIPv4 h hc with rfl | hdigit
    · decide
    · simp [isUnreserved, Char.isAlphanum, hdigit]
  exact ofURL_of_plain hname (fun c hc => isInner_of_isAddressChar (isAddressChar_of_isIPv4 h hc))
    (colon_notMem_of_isIPv4 h) hport (head?_all_of_slash hpath)

/-- **An address of IPv6** as the whole authority is not read. -/
theorem ofURL_of_isIPv6 (h : isIPv6 ip = true) (hpath : path.head? = some '/') :
    ofURL ("http://" ++ (ip ++ path)) = none := by
  obtain ⟨a, r, rfl, hr⟩ := exists_colons_of_isIPv6 h
  exact ofURL_eq_none hr (fun c hc => isInner_of_isAddressChar (isAddressChar_of_isIPv6 h c hc))
    (head?_all_of_slash hpath)

/-- No address is one of both. -/
lemma not_isIPv4_of_isIPv6 (h : isIPv6 ip = true) : ¬isIPv4 ip = true := by
  obtain ⟨a, r, rfl, -⟩ := exists_colons_of_isIPv6 h
  exact fun hv4 => colon_notMem_of_isIPv4 hv4 (by simp)

/-- An address of IPv4 gets the port. -/
lemma addPort_of_isIPv4 (h : isIPv4 ip = true) (port : Text) :
    addPort port ip = ip ++ ':' :: port := by
  rw [addPort, if_neg (colon_notMem_of_isIPv4 h)]
  simp

/-- An address of IPv6 is taken for one that has its port already. -/
lemma addPort_of_isIPv6 (h : isIPv6 ip = true) (port : Text) : addPort port ip = ip := by
  obtain ⟨a, r, rfl, -⟩ := exists_colons_of_isIPv6 h
  rw [addPort, if_pos (by simp)]

end Addresses

/-! ## Requests -/

/-- `http.NewRequest` for the URLs of pods, as it is documented from Go 1.26 on: the request is
built just when the authority can be read. -/
def ReadsURLs (build : Text → Option Text) (path : Text) : Prop :=
  ∀ ip port, isIPv4 ip = true ∨ isIPv6 ip = true → port.all Char.isDigit = true →
    (build (podURL (addPort port ip) path) = none ↔
      (ofURL (podURL (addPort port ip) path)).isSome = true)

/-- **A request to a pod can be built** just when its address is one of IPv4. -/
theorem built_iff_isIPv4 {build : Text → Option Text} {ip port path : Text}
    (hbuild : ReadsURLs build path) (hip : isIPv4 ip = true ∨ isIPv6 ip = true)
    (hport : port.all Char.isDigit = true) (hpath : path.head? = some '/') :
    build (podURL (addPort port ip) path) = none ↔ isIPv4 ip = true := by
  rw [hbuild ip port hip hport]
  constructor
  · intro hread
    refine hip.resolve_right fun hv6 => ?_
    rw [addPort_of_isIPv6 hv6, podURL_eq, ofURL_of_isIPv6 hv6 hpath] at hread
    cases hread
  · intro hv4
    rw [addPort_of_isIPv4 hv4, podURL_eq, ofURL_of_isIPv4 hv4 hport hpath]
    rfl

/-- The error of `url.Parse` for an authority that cannot be read: all that follows the first colon
is taken for the port. -/
def urlError (url : Text) : Option Text :=
  if (ofURL url).isSome then none
  else
    let authority := (url.drop 7).takeWhile fun c => !endsAuthority c
    some ("parse \"" ++ url ++ "\": invalid port \"" ++ authority.dropWhile (· ≠ ':') ++
      "\" after host")

/-- It is an error for just these URLs. -/
lemma urlError_eq_none_iff (url : Text) : urlError url = none ↔ (ofURL url).isSome = true := by
  unfold urlError
  split_ifs with hread
  · exact iff_of_true rfl hread
  · exact iff_of_false (by simp) hread

/-- So requests are built as `ReadsURLs` says. -/
lemma readsURLs_urlError (path : Text) : ReadsURLs urlError path :=
  fun _ _ _ _ => urlError_eq_none_iff _

example : urlError "http://fd00::1/" =
    some "parse \"http://fd00::1/\": invalid port \"::1\" after host".toList := by
  decide

end CloudVinyl.Proxy
