import NucleoH753zi.Tokenize
import NucleoH753zi.Libc
import NucleoH753zi.Gpio
import NucleoH753zi.PinName
import NucleoH753zi.Spi.CsPins
import NucleoH753zi.Steps
import NucleoH753zi.Spi.Initialize
import NucleoH753zi.Spi.Select
import NucleoH753zi.Buttons
import NucleoH753zi.Blocks
import NucleoH753zi.Bringup
import NucleoH753zi.Leds
import NucleoH753zi.GpioDriver
import NucleoH753zi.Adc
import NucleoH753zi.Composite
import NucleoH753zi.CompositeMsc
import NucleoH753zi.BootImage
import NucleoH753zi.GpioUpper
import NucleoH753zi.GpioFile
import NucleoH753zi.GpioSignal
import NucleoH753zi.GpioPoll
