import SpendPolicy.Config.Basic
import SpendPolicy.Key.Classification
import SpendPolicy.Policy.Form

set_option autoImplicit false

namespace SpendPolicy.Config

def thresholdItem (item : Text) : Text :=
  if Key.isKey item then Form.key item else item

def form : Config → Text
  | .singleSig key => Form.key key
  | .multiSig m _ keys => Form.thresh m (keys.map Form.key)
  | .threshold m _ items => Form.thresh m (items.map thresholdItem)
  | .absoluteTimelock value => Form.after value
  | .relativeTimelock value => Form.older value
  | .hashlock algorithm digest => Form.call algorithm [digest]
  | .vault m _ keys delay cancelKey =>
    Form.or (Form.and (Form.thresh m (keys.map Form.key)) (Form.after delay)) (Form.key cancelKey)
  | .inheritance ownerKey heirsKeys heirsThreshold timelock1 thirdPartyKey timelock2 =>
    Form.or
      (Form.or (Form.key ownerKey)
        (Form.and (Form.thresh heirsThreshold (heirsKeys.map Form.key)) (Form.after timelock1)))
      (Form.and (Form.key thirdPartyKey) (Form.after timelock2))
  | .simpleEscrow partyAKey partyBKey arbiterKey timeout =>
    Form.or (Form.and (Form.key partyAKey) (Form.key partyBKey))
      (Form.and (Form.key arbiterKey) (Form.after timeout))
  | .unrecognised _ => []

def expression (config : Config) : Except ConfigError Text :=
  match config.check with
  | .ok () => .ok config.form
  | .error e => .error e

end SpendPolicy.Config
