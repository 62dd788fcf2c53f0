import Nvrhi.Basic
import Nvrhi.Pipeline
import Nvrhi.SpecializationConstants
import Nvrhi.GraphicsState
import Nvrhi.Vulkan
import Nvrhi.Framebuffer
import Nvrhi.CommandList
import Nvrhi.Calls
import Nvrhi.RenderPass
import Nvrhi.Conversions
import Nvrhi.StateCache
import Nvrhi.SameState
import Nvrhi.DynamicState
import Nvrhi.Resources
import Nvrhi.BindingSet
import Nvrhi.BindingSetItems
